import NanoArq.Link.Delivery

/-!
# What the sender has given up has arrived

`Transfer` says that what was read is the beginning of what was accepted. Here is the other half: a
message leaves the sender's window only when the receiver has all of its segments, so that the
application finds every byte that the sender no longer holds.

* `Wired`: the two sides and the frames in flight between them, whatever the frames are about.
* `Crossing`: `Transfer` for known messages, of which those below the sender's window are complete.
* `acknowledged_bytes_arrive`: one read returns all bytes that have left the sender's window, if none of
  its polls removes a message that has bytes beyond its target vector.
-/

namespace NanoArq

open Lib

/-! ## The frames between two sides -/

/-- Both sides, and the frames `qr` and `ql` in flight to the right and to the left. -/
structure Wired (b : Build) (cfg : Cfg) (p : Duplex) (qr ql : List (FrameHdr × List UInt8)) : Prop where
  left : Endpoint b cfg p.left.arq
  right : Endpoint b cfg p.right.arq
  toRight : InFlight cfg.checksum p.left.arq.sendFrame p.toRight p.right.arq.recvFrame qr
  toLeft : InFlight cfg.checksum p.right.arq.sendFrame p.toLeft p.left.arq.recvFrame ql

section

variable {b : Build} {cfg : Cfg} {p : Duplex} {qr ql rest : List (FrameHdr × List UInt8)} {c : LinkCall}
  {dt : Nat}

theorem Wired.swap (h : Wired b cfg p qr ql) : Wired b cfg p.swap ql qr :=
  ⟨h.right, h.left, h.toLeft, h.toRight⟩

/-- A poll of the left side takes the first frame that is in flight to it, and writes one behind those
in flight to the right. -/
theorem Wired.poll (h : Wired b cfg p qr ql) (hcfg : cfg.Symmetric) (dt : Nat)
    (hread : ∀ rest, Takes p.left.arq ql rest → ReadFits cfg.messageLengthInSegments p.left.arq) :
    ∃ rest, Takes p.left.arq ql rest ∧
      (∀ f, pollFrame (pollWork b p.left.arq dt) = some f → f.1.seqNum < seqSpace) ∧
      Wired b cfg (p.move b (.poll dt)) (qr ++ (pollFrame (pollWork b p.left.arq dt)).toList) rest := by
  have hsum : p.left.arq.cfg.checksum = cfg.checksum := congrArg Cfg.checksum (h.left.sound hcfg).cfg_eq
  have htaken : ∃ rest, Takes p.left.arq ql rest ∧ InFlight cfg.checksum p.right.arq.sendFrame p.toLeft
      (perform b p.left.arq (.poll dt)).recvFrame rest := by
    obtain ⟨hnone, hflight⟩ | ⟨f, rest, r, rfl, hr, hout, hflight⟩ := h.toLeft.read b dt hsum
    · exact ⟨ql, Or.inl ⟨hnone, rfl⟩, hflight⟩
    · obtain ⟨hresult, rfl⟩ := Prod.mk.inj hout
      exact ⟨rest, Or.inr ⟨r, rfl, hr, hresult⟩, hflight⟩
  obtain ⟨rest, htakes, hflight⟩ := htaken
  have hframe := fun f hf => @Endpoint.frame b cfg p.left.arq dt h.left hcfg (hread rest htakes) f hf
  refine ⟨rest, htakes, fun f hf => (hframe f hf).1, ?_, h.right, ?_, ?_⟩
  · change Endpoint b cfg (stationStep b p.left (.poll dt)).arq
    rw [stationStep_arq]
    exact h.left.perform hcfg (.poll dt) fun _ _ => hread rest htakes
  · change InFlight cfg.checksum (stationStep b p.left (.poll dt)).arq.sendFrame p.toRight _ _
    rw [stationStep_arq]
    refine h.toRight.write b dt hsum ?_ ?_
    · intro hne
      by_contra hbusy
      exact hne (pollFrame_busy hbusy)
    · intro f hf
      rw [h.right.frame_cap hcfg]
      exact (hframe f hf).2
  · change InFlight cfg.checksum _ p.toLeft (stationStep b p.left (.poll dt)).arq.recvFrame _
    rw [stationStep_arq]
    exact hflight

/-- The other moves of the left side: at most the last frame to the right is lost. -/
theorem Wired.call (h : Wired b cfg p qr ql) (hcfg : cfg.Symmetric) (hpoll : ∀ dt, c ≠ .poll dt) :
    ∃ qr', qr'.Sublist qr ∧ (c ≠ .get false → qr' = qr) ∧ Wired b cfg (p.move b c) qr' ql := by
  obtain ⟨qr', hsub, hsame, htoRight, htoLeft⟩ :=
    Pair.move_inFlight b (p := p.pair) hpoll h.toRight h.toLeft
  have hleft : (p.move b c).left.arq = (p.pair.move b c).left := by
    rw [Pair.move_left]
    exact stationStep_arq b p.left (c.call p.pair)
  refine ⟨qr', hsub, hsame, ?_, h.right, ?_, ?_⟩
  · rw [hleft, Pair.move_left]
    refine h.left.perform hcfg _ fun dt hdt => ?_
    cases c with
    | poll dt => exact absurd rfl (hpoll dt)
    | connect | send | flush | recv | get | release | deliver => cases hdt
  · rw [hleft]
    exact htoRight
  · rw [hleft]
    exact htoLeft

end

/-! ## One direction -/

/-- Of a message that a poll removes, and whose target covers its bytes, the receiver has every
segment. -/
theorem Transfer.retired_all {d : Dims} {hcap : d.cap ≤ 2048} {h : SendHist} {accepted : List UInt8}
    {r : Reassembly} {data acks rest : List (FrameHdr × List UInt8)} {past : List (List UInt8)}
    {low told read i j : Nat} (ht : Transfer d hcap h accepted r data acks past low told read)
    (htakes : Takes h.arq acks rest) (hcover : pollAcks h.arq → AckedCovered h.arq)
    (hi : i < pollRetired h.arq)
    (hj : j < (d.recv hcap).segsOf (messageAt d past h.content (h.base + i))) : (h.base + i, j) ∈ r.got := by
  have hl := ht.sender.wnd.targets.layout
  obtain ⟨hretired, hall, -, -⟩ := pollAcked_msgs hl
  have hsize : i < h.arq.sendWnd.w.size := hi.trans_le hretired
  have hin : pollAcks h.arq := by
    by_contra hnot
    rw [pollRetired_of_not hnot] at hi
    exact Nat.not_lt_zero i hi
  have hacked := hall i hi
  have hcovered := hcover hin i hsize hacked
  rw [hl.slot, hl.shape.segLen] at hcovered
  unfold msgAcked at hacked
  rw [hl.slot] at hacked
  have hlen : (messageAt d past h.content (h.base + i)).length =
      (h.arq.sendWnd.w.msg ((h.base + i) % d.cap)).len := by
    rw [← ht.past_length, messageAt_window (by rw [← hl.size]; exact hsize), ht.past_length,
      hl.len i hsize, length_chunk, chunkLen]
  -- The target, and so the vector, has a bit for every segment.
  obtain ⟨c, hfull, hcount, -⟩ := ht.sender.wnd.targets.count hsize
  obtain ⟨told', hle, -, hack⟩ := htakes.ack_read ht.acks_from
  refine (ht.noted hle hack hsize ?_).1
  rw [hacked, (pollMsgs_vectors _ _).1, hfull, Nat.testBit_two_pow_sub_one, decide_eq_true_eq]
  refine Nat.lt_of_lt_of_le ?_ (hcount hcovered)
  rw [← hlen]
  exact hj

/-- The direction from `x` to `y` in which the messages are `M`, the segments `got` have arrived and
`read` messages have been handed over. Every message below the sender's window is complete. -/
structure Crossing (d : Dims) (hcap : d.cap ≤ 2048) (M : Nat → List UInt8) (x y : Station)
    (data acks : List (FrameHdr × List UInt8)) (got : List (Nat × Nat)) (low read : Nat) : Prop where
  transfer : ∃ past told, messageAt d past x.hist.content = M ∧
    Transfer d hcap x.hist x.accepted ⟨y.arq.recvWnd, got, y.returned⟩ data acks past low told read
  done : ∀ k, k < x.hist.base → ∀ j, j < (d.recv hcap).segsOf (M k) → (k, j) ∈ got

section

variable {b : Build} {d : Dims} {hcap : d.cap ≤ 2048} {M : Nat → List UInt8} {x y : Station}
  {data acks rest : List (FrameHdr × List UInt8)} {got : List (Nat × Nat)} {low read dt : Nat} {c : Call}

theorem Crossing.fits (h : Crossing d hcap M x y data acks got low read) (k : Nat) :
    MsgFits (d.recv hcap) (M k) := by
  obtain ⟨past, told, rfl, ht⟩ := h.transfer
  exact ht.fits k

theorem Crossing.sublist (h : Crossing d hcap M x y data acks got low read)
    {data' acks' : List (FrameHdr × List UInt8)} (hdata : data'.Sublist data)
    (hacks : acks'.Sublist acks) : Crossing d hcap M x y data' acks' got low read := by
  obtain ⟨past, told, hM, ht⟩ := h.transfer
  exact ⟨⟨past, told, hM, ht.sublist hdata hacks⟩, h.done⟩

/-- The calls of the sender other than `arq_send` and `arq_backend_poll`. -/
theorem Crossing.of_sender (h : Crossing d hcap M x y data acks got low read)
    (hsend : ∀ xs, c ≠ .send xs) (hpoll : ∀ dt, c ≠ .poll dt) (hreset : c ≠ .reset) :
    Crossing d hcap M (stationStep b x c) y data acks got low read := by
  obtain ⟨past, told, hM, ht⟩ := h.transfer
  by_cases hflush : c = .flush
  · subst hflush
    exact ⟨⟨past, told, hM, ht.flush b⟩, h.done⟩
  have hstep : sendHistStep b x.hist c = { x.hist with arq := perform b x.hist.arq c } := by
    cases c with
    | send xs => exact absurd rfl (hsend xs)
    | poll dt => exact absurd rfl (hpoll dt)
    | flush => exact absurd rfl hflush
    | reset => exact absurd rfl hreset
    | recv | sendPtrGet | sendPtrRelease | recvFill | connect => rfl
  have haccepted : (stationStep b x c).accepted = x.accepted := by
    cases c with
    | send xs => exact absurd rfl (hsend xs)
    | poll | flush | reset | recv | sendPtrGet | sendPtrRelease | recvFill | connect => rfl
  obtain ⟨hwnd, -⟩ := perform_sendWnd b x.hist.arq hsend hflush hpoll hreset
  have ht' : Transfer d hcap (sendHistStep b x.hist c) x.accepted ⟨y.arq.recvWnd, got, y.returned⟩ data
      acks past low told read := by
    refine ht.of_sender (ht.sender.step b c ?_) ?_ ?_ ?_ ?_ ?_
    · cases c <;> first | trivial | exact absurd rfl (hpoll _)
    · rw [hstep]
    · rw [hstep]
    · rw [hstep]
    · rw [sendHistStep_arq, hwnd]
    · intro j
      rw [sendHistStep_arq, hwnd]
  refine ⟨⟨past, told, ?_, ?_⟩, ?_⟩
  · change messageAt d past (sendHistStep b x.hist c).content = M
    rw [hstep]
    exact hM
  · rw [haccepted]
    exact ht'
  · change ∀ k, k < (sendHistStep b x.hist c).base → _
    rw [hstep]
    exact h.done

/-- `arq_send` changes no message that has left the window. -/
theorem Crossing.send (h : Crossing d hcap M x y data acks got low read) {xs : List UInt8}
    (hok : x.arq.needPoll = false → AddsToUntouched x.hist xs) :
    ∃ M', Crossing d hcap M' (stationStep b x (.send xs)) y data acks got low read := by
  obtain ⟨past, told, rfl, ht⟩ := h.transfer
  refine ⟨_, ⟨past, told, rfl, ht.send b hok⟩, fun k hk j hj => ?_⟩
  have hpast : k < past.length := by
    rw [ht.past_length]
    exact hk
  rw [messageAt_past hpast] at hj
  exact h.done k hk j hj

/-- The calls of the receiver other than `arq_recv` and `arq_backend_poll`. -/
theorem Crossing.of_receiver (h : Crossing d hcap M x y data acks got low read)
    (hrecv : ∀ n, c ≠ .recv n) (hpoll : ∀ dt, c ≠ .poll dt) (hreset : c ≠ .reset) :
    Crossing d hcap M x (stationStep b y c) data acks got low read := by
  obtain ⟨past, told, hM, ht⟩ := h.transfer
  have hreturned : (stationStep b y c).returned = y.returned := by
    cases c with
    | recv n => exact absurd rfl (hrecv n)
    | poll | reset | send | flush | sendPtrGet | sendPtrRelease | recvFill | connect => rfl
  refine ⟨⟨past, told, hM, ?_⟩, h.done⟩
  rw [stationStep_arq, perform_recvWnd b y.arq hrecv hpoll hreset, hreturned]
  exact ht

theorem Crossing.recv (h : Crossing d hcap M x y data acks got low read) (recvMax : Nat) :
    ∃ read', Crossing d hcap M x (stationStep b y (.recv recvMax)) data acks got low read' := by
  obtain ⟨past, told, hM, ht⟩ := h.transfer
  have hcall : ∃ read', Transfer d hcap x.hist x.accepted ⟨(stationStep b y (.recv recvMax)).arq.recvWnd,
      got, (stationStep b y (.recv recvMax)).returned⟩ data acks past low told read' := by
    rw [stationStep_arq]
    simp only [stationStep, perform, arqRecv]
    split
    · rw [List.append_nil]
      exact ⟨read, ht⟩
    · exact ht.recv recvMax
  obtain ⟨read', ht'⟩ := hcall
  exact ⟨read', ⟨past, told, hM, ht'⟩, h.done⟩

/-- Of a message that a poll removes the receiver has every segment. -/
theorem Crossing.poll_sender (h : Crossing d hcap M x y data acks got low read)
    (hok : CleanPoll x.arq dt) (hcover : pollAcks x.arq → AckedCovered x.arq)
    (htakes : Takes x.arq acks rest)
    (htarget : ∀ j, j < x.arq.sendWnd.w.cap → (x.arq.sendWnd.w.msg j).fullAckVec ≠ 0)
    (hseq : ∀ p, pollFrame (pollWork b x.arq dt) = some p → p.1.seqNum < seqSpace) :
    Crossing d hcap M (stationStep b x (.poll dt)) y
      (data ++ (pollFrame (pollWork b x.arq dt)).toList) rest got low read := by
  obtain ⟨past, told, rfl, ht⟩ := h.transfer
  obtain ⟨told', ht'⟩ := ht.poll_sender_past b hok htakes htarget hseq
  have hl := ht.sender.wnd.targets.layout
  have hstep := sendHistStep_poll b hl dt
  refine ⟨⟨_, told', ?_, ht'⟩, fun k hk j hj => ?_⟩
  · funext k
    change messageAt d _ (sendHistStep b x.hist (.poll dt)).content k = _
    rw [messageAt, messageAt, hstep, messages_retire]
  · change k < (sendHistStep b x.hist (.poll dt)).base at hk
    rw [hstep] at hk
    dsimp only at hk
    rcases Nat.lt_or_ge k x.hist.base with hlt | hge
    · exact h.done k hlt j hj
    obtain ⟨i, rfl⟩ := Nat.exists_eq_add_of_le hge
    exact ht.retired_all htakes hcover (Nat.add_lt_add_iff_left.mp hk) hj

theorem Crossing.poll_receiver (dt : Nat) (hb : b.useConnections = false)
    (h : Crossing d hcap M x y data acks got low read) (htakes : Takes y.arq data rest)
    (hok : ∀ f ∈ pollSegment y.arq, NotHandedOver y.arq.recvWnd f.hdr.seqNum) :
    ∃ got' low', Gains (d.recv hcap) M x.hist y.arq got got' low low' ∧
      Assembled (d.recv hcap) M ⟨pollReceived y.arq dt, got', y.returned⟩ read ∧
      Crossing d hcap M x (stationStep b y (.poll dt)) rest
        (acks ++ (pollFrame (pollWork b y.arq dt)).toList) got' low' read := by
  obtain ⟨past, told, rfl, ht⟩ := h.transfer
  obtain ⟨got', low', hchange, hwindow, ht'⟩ := ht.poll_received b dt hb rfl htakes hok
  refine ⟨got', low', hchange, hwindow, ⟨past, told, rfl, ?_⟩,
    fun k hk j hj => hchange.grows _ (h.done k hk j hj)⟩
  rw [stationStep_arq]
  exact ht'

/-- What a read of everything returns. -/
theorem Crossing.arrived (h : Crossing d hcap M x y data acks got low read) {n : Nat}
    (hn : x.accepted.length ≤ n) :
    y.returned ++ (recvWndRecv y.arq.recvWnd n).2 <+: x.accepted ∧
      x.accepted.length ≤
        (y.returned ++ (recvWndRecv y.arq.recvWnd n).2).length + x.hist.content.length := by
  obtain ⟨past, told, rfl, ht⟩ := h.transfer
  obtain ⟨e, he⟩ := ht.receiver.layout.leading ht.fits
  have hlength := ht.leading_le he
  have hbefore := ht.receiver.out_before he
  have hconcat := concat_messages (d := d) hlength
  rw [← ht.accepted_eq] at hconcat
  obtain ⟨hbytes, -⟩ := ht.receiver.read ht.fits he n
  have hall : y.returned ++ (recvWndRecv y.arq.recvWnd n).2 =
      concat (messageAt d past x.hist.content) e := by
    rw [hbytes, List.take_of_length_le]
    · obtain ⟨rest, hrest⟩ := hbefore
      dsimp only at hrest ⊢
      rw [← hrest, List.drop_left]
    · have := hconcat.length_le
      rw [List.length_drop]
      omega
  rw [hall]
  refine ⟨hconcat, ?_⟩
  have hbase : x.hist.base ≤ e := by
    by_contra hlt
    exact he.ends (h.done e (by omega))
  have hpast := concat_past d past x.hist.content
  rw [ht.past_length] at hpast
  have hle := (concat_mono (messageAt d past x.hist.content) hbase).length_le
  rw [hpast] at hle
  have haccepted := congrArg List.length ht.accepted_eq
  rw [List.length_append] at haccepted
  omega

end

/-! ## The theorem -/

/-- A poll removes no message that has bytes beyond its target vector. -/
def ReliableMove (s : Station) : LinkCall → Prop
  | .poll dt => DeliveryMove s (.poll dt) ∧ (pollAcks s.arq → AckedCovered s.arq)
  | c => DeliveryMove s c

instance (s : Station) : (c : LinkCall) → Decidable (ReliableMove s c)
  | .poll dt => inferInstanceAs (Decidable (DeliveryMove s (.poll dt) ∧ (_ → AckedCovered s.arq)))
  | .send data => inferInstanceAs (Decidable (DeliveryMove s (.send data)))
  | .connect | .flush | .recv _ | .get _ | .release | .deliver _ => inferInstanceAs (Decidable True)

/-- Two linked sides, each of which has got what the other has given up. -/
structure Ferried (b : Build) (cfg : Cfg) (d : Dims) (hcap : d.cap ≤ 2048) (p : Duplex)
    (qr ql : List (FrameHdr × List UInt8)) : Prop where
  wired : Wired b cfg p qr ql
  across : ∃ M got low read, Crossing d hcap M p.left p.right qr ql got low read
  back : ∃ M got low read, Crossing d hcap M p.right p.left ql qr got low read

section

variable {b : Build} {cfg : Cfg} {d : Dims} {hcap : d.cap ≤ 2048} {p : Duplex}
  {qr ql : List (FrameHdr × List UInt8)} {c : LinkCall} {dt : Nat}

theorem Ferried.swap (h : Ferried b cfg d hcap p qr ql) : Ferried b cfg d hcap p.swap ql qr :=
  ⟨h.wired.swap, h.back, h.across⟩

theorem Crossing.read_fits {M : Nat → List UInt8} {x y : Station} {data acks rest : List (FrameHdr × List UInt8)}
    {got : List (Nat × Nat)} {low read : Nat} (h : Crossing d hcap M x y data acks got low read)
    (htakes : Takes y.arq data rest) : ReadFits d.segs y.arq := by
  obtain ⟨past, told, -, ht⟩ := h.transfer
  exact ht.read_fits htakes

theorem Ferried.poll (hb : b.useConnections = false) (hcfg : cfg.Symmetric)
    (hd : cfg.Has d cfg.sendWindowSizeInMessages) (h : Ferried b cfg d hcap p qr ql)
    (hok : ReliableMove p.left (.poll dt)) :
    ∃ qr' ql', Ferried b cfg d hcap (p.move b (.poll dt)) qr' ql' := by
  obtain ⟨M, got, low, read, hacross⟩ := h.across
  obtain ⟨M', got', low', read', hback⟩ := h.back
  obtain ⟨rest, htakes, hseq, hwired⟩ := h.wired.poll hcfg dt fun rest htakes => by
    rw [hd.segs]
    exact hback.read_fits htakes
  refine ⟨_, rest, hwired, ⟨M, got, low, read, ?_⟩, ?_⟩
  · exact hacross.poll_sender hok.1.1 hok.2 htakes (fun j hj => h.wired.left.target hcfg hj) hseq
  · obtain ⟨got'', low'', -, -, hback'⟩ := hback.poll_receiver dt hb htakes hok.1.2
    exact ⟨M', got'', low'', read', hback'⟩

theorem Ferried.move (hb : b.useConnections = false) (hcfg : cfg.Symmetric)
    (hd : cfg.Has d cfg.sendWindowSizeInMessages) (h : Ferried b cfg d hcap p qr ql)
    (hok : ReliableMove p.left c) : ∃ qr' ql', Ferried b cfg d hcap (p.move b c) qr' ql' := by
  by_cases hpoll : ∃ dt, c = .poll dt
  · obtain ⟨dt, rfl⟩ := hpoll
    exact h.poll hb hcfg hd hok
  have hne : ∀ dt, c ≠ .poll dt := fun dt hc => hpoll ⟨dt, hc⟩
  obtain ⟨qr', hsub, -, hwired⟩ := h.wired.call hcfg hne
  obtain ⟨M, got, low, read, hacross⟩ := h.across
  obtain ⟨M', got', low', read', hback⟩ := h.back
  have hcall : (∀ dt, c.call p.pair ≠ .poll dt) ∧ c.call p.pair ≠ .reset := by
    cases c with
    | poll dt => exact absurd rfl (hne dt)
    | connect | send | flush | recv | get | release | deliver =>
      exact ⟨by simp [LinkCall.call], by simp [LinkCall.call]⟩
  have hsent : ∃ M, Crossing d hcap M (p.move b c).left p.right qr ql got low read := by
    cases c with
    | send data => exact hacross.send hok
    | poll dt => exact absurd rfl (hne dt)
    | connect | flush | recv | get | release | deliver =>
      exact ⟨M, hacross.of_sender (by simp [LinkCall.call]) hcall.1 hcall.2⟩
  obtain ⟨M'', hacross'⟩ := hsent
  have hheard : ∃ read, Crossing d hcap M' p.right (p.move b c).left ql qr got' low' read := by
    cases c with
    | recv recvMax => exact hback.recv recvMax
    | poll dt => exact absurd rfl (hne dt)
    | connect | send | flush | get | release | deliver =>
      exact ⟨read', hback.of_receiver (by simp [LinkCall.call]) hcall.1 hcall.2⟩
  obtain ⟨read'', hback'⟩ := hheard
  exact ⟨qr', ql, hwired, ⟨M'', got, low, read, hacross'.sublist hsub (.refl ql)⟩,
    ⟨M', got', low', read'', hback'.sublist (.refl ql) hsub⟩⟩

end

theorem Ferried.start {b : Build} {cfg : Cfg} {d : Dims} {hcap : d.cap ≤ 2048} (hcfg : cfg.Symmetric)
    (hd : cfg.Has d cfg.sendWindowSizeInMessages) {seat arq₀ : Side → Arq}
    (hinit : ∀ x, arqInit b cfg (seat x) = .ok (arq₀ x)) :
    Ferried b cfg d hcap (.start (arq₀ .left) (arq₀ .right)) [] [] := by
  have hlinked : Linked b cfg d hcap (.start (arq₀ .left) (arq₀ .right)) [] [] := .start hcfg hd hinit
  have hcrossing : ∀ x y, ∃ M got low read,
      Crossing d hcap M (.start (arq₀ x)) (.start (arq₀ y)) [] [] got low read := by
    intro x y
    refine ⟨_, [], 0, 0, ⟨[], 0, rfl, .start (hinit x) (hinit y) hd hcfg.window⟩, fun k hk => ?_⟩
    exact absurd hk (Nat.not_lt_zero k)
  exact ⟨⟨hlinked.left, hlinked.right, hlinked.toRight, hlinked.toLeft⟩, hcrossing .left .right,
    hcrossing .right .left⟩

theorem ferried_run {b : Build} {d : Dims} (hcap : d.cap ≤ 2048) (hb : b.useConnections = false) {cfg : Cfg} (hcfg : cfg.Symmetric)
    (hd : cfg.Has d cfg.sendWindowSizeInMessages)
    {seat arq₀ : Side → Arq} (hinit : ∀ x, arqInit b cfg (seat x) = .ok (arq₀ x)) {p : Duplex}
    (hrun : Run (duplexStep b) (fun p a => ReliableMove (p.view a.1).left a.2)
      (.start (arq₀ .left) (arq₀ .right)) p) : ∃ qr ql, Ferried b cfg d hcap p qr ql := by
  refine hrun.invariant (I := fun p => ∃ qr ql, Ferried b cfg d hcap p qr ql)
    ⟨[], [], .start hcfg hd hinit⟩ ?_
  rintro p ⟨y, c⟩ ⟨qr, ql, h⟩ hok
  cases y with
  | left => exact h.move hb hcfg hd hok
  | right =>
    obtain ⟨ql', qr', h'⟩ := h.swap.move hb hcfg hd hok
    exact ⟨qr', ql', h'.swap⟩

/-- **What the sender has given up has arrived**: in every run of moves that meet the condition, a read
of everything at one side extends what was read to a beginning of what the other side has accepted, and
reaches all bytes but those that the other side's window still holds. -/
theorem acknowledged_bytes_arrive (b : Build) (hb : b.useConnections = false) (cfg : Cfg)
    (hcfg : cfg.Symmetric) (seat arq₀ : Side → Arq) (hinit : ∀ x, arqInit b cfg (seat x) = .ok (arq₀ x))
    (p : Duplex) (hrun : Run (duplexStep b) (fun p a => ReliableMove (p.view a.1).left a.2)
      (.start (arq₀ .left) (arq₀ .right)) p) (x : Side) (n : Nat)
    (hn : (p.view x).left.accepted.length ≤ n) :
    let sender := (p.view x).left
    let receiver := (p.view x).right
    let read := receiver.returned ++ (recvWndRecv receiver.arq.recvWnd n).2
    read <+: sender.accepted ∧ sender.accepted.length ≤ read.length + sender.hist.content.length := by
  obtain ⟨d, hd⟩ := hcfg.regular.dims (hinit .left)
  have hcap : d.cap ≤ 2048 := by
    rw [← hd.cap]
    exact (pow_window hcfg.cap).1
  obtain ⟨qr, ql, h⟩ := ferried_run hcap hb hcfg hd hinit hrun
  cases x with
  | left =>
    obtain ⟨M, got, low, read, hacross⟩ := h.across
    exact hacross.arrived hn
  | right =>
    obtain ⟨M, got, low, read, hback⟩ := h.back
    exact hback.arrived hn

/-- A message of two segments crosses, and its ACK; nothing was read yet. -/
def arrivedMoves : List (Side × LinkCall) :=
  [(.left, .send [7, 8]), (.left, .poll 0), (.left, .get true), (.left, .release), (.left, .poll 0),
    (.left, .get true), (.left, .release), (.left, .poll 0), (.right, .deliver 38), (.right, .poll 0),
    (.right, .deliver 38), (.right, .poll 0), (.right, .get true), (.right, .release),
    (.left, .deliver 38), (.left, .poll 0)]

theorem acknowledged_bytes_arrive_sample :
    (deliverySample 2 1 arrivedMoves).left.hist.content = [] ∧
      (let sender := ((deliverySample 2 1 arrivedMoves).view .left).left
        let receiver := ((deliverySample 2 1 arrivedMoves).view .left).right
        let read := receiver.returned ++ (recvWndRecv receiver.arq.recvWnd 2).2
        read <+: sender.accepted ∧
          sender.accepted.length ≤ read.length + sender.hist.content.length) := by
  refine ⟨by decide +kernel, ?_⟩
  exact acknowledged_bytes_arrive ⟨false⟩ rfl (smallCfg 1 2 1)
    ⟨rfl, ⟨0, by decide, rfl⟩, by decide, by decide⟩ (fun _ => zeroSeat (smallCfg 1 2 1))
    (fun _ => freshArq ⟨false⟩ (smallCfg 1 2 1)) (fun _ => arqInit_zeroSeat (by decide)) _
    (.exec (by decide +kernel)) .left 2 (by decide +kernel)

end NanoArq
