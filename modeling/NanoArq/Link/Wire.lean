import NanoArq.Link.Pair
import NanoArq.Poll.Outgoing
import NanoArq.Receiver.Ops

/-!
# Frames of a pair on the wire

Two instances of one configuration exchange frames over a network that may lose, repeat and reorder
them, and damage them as long as the checksum notices: a data frame that is accepted is one that the
peer has written. `Representable` are the limits within which every frame that either side writes
is read back as it was written (`written_frames_read`); `arq__check_cfg` does not check them
(`long_message_misread`).
-/

namespace NanoArq

open Lib

/-! ## Limits -/

/-- The limits of the wire format: twelve bits of ACK vector, capacities of sixteen bits, and a
zero byte of the header no more than 255 bytes before the end of the frame. -/
structure Representable (cfg : Cfg) : Prop where
  segs : cfg.messageLengthInSegments ≤ 12
  segLen : cfg.segmentLengthInBytes ≤ 242 ∨
    cfg.messageLengthInSegments ≤ 8 ∧ cfg.segmentLengthInBytes ≤ 249
  sendCap : 0 < u16 cfg.sendWindowSizeInMessages
  recvCap : 0 < u16 cfg.recvWindowSizeInMessages

/-- What the writer may put into a header of messages of at most `segs` segments. -/
structure HdrBounds (segs : Nat) (h : FrameHdr) : Prop where
  version : h.version = 0
  winSize : h.winSize = 0
  seqNum : h.seqNum < seqSpace
  msgLen : h.msgLen ≤ segs
  segId : h.segId < segs
  ackNum : h.ackNum < seqSpace
  curAckVec : h.curAckVec < 2 ^ segs

theorem two_pow_le_of_le {a c : Nat} (h : a ≤ c) : 2 ^ a ≤ 2 ^ c :=
  Nat.pow_le_pow_right (by decide) h

/-- A header within the bounds fits the wire, with the segment that it announces. -/
theorem HdrBounds.wireFits {checksum : Checksum} {cfg : Cfg} {h : FrameHdr} {seg : List UInt8}
    (hcfg : Representable cfg) (hb : HdrBounds cfg.messageLengthInSegments h)
    (hlen : seg.length = h.segLen) (hseg : h.segLen ≤ cfg.segmentLengthInBytes) :
    WireFits checksum h seg := by
  obtain ⟨hsegs, hlimit, -, -⟩ := hcfg
  have hvec : h.curAckVec < 4096 := hb.curAckVec.trans_le (two_pow_le_of_le hsegs)
  have hmsg := hb.msgLen
  have hid := hb.segId
  have hbyte : ∀ m k, k < 12 → frameRaw checksum h seg m (1 + k) = (frameHdrWrite h).getD k 0 := by
    intro m k hk
    have hbody := slice_frameRaw checksum hlen m
    have hget := congrArg (fun l => l.getD k 0) hbody
    have hlen' : k < (frameHdrWrite h).length := hk
    simp only [List.getD_eq_getElem?_getD] at hget ⊢
    rw [getElem?_slice _ _ (by omega), frameBody, List.append_assoc,
      List.getElem?_append_left hlen'] at hget
    exact hget
  refine ⟨⟨?_, ?_, ?_, ?_, hb.seqNum, ?_, hb.ackNum, hvec⟩, hlen, ?_⟩
  · rw [hb.version]
    decide
  · omega
  · rw [hb.winSize]
    decide
  · omega
  · unfold seqSpace
    omega
  · intro m
    obtain hshort | ⟨hfew, hlong⟩ := hlimit
    · have hzero : frameRaw checksum h seg m 4 = 0 := by
        rw [hbyte m 3 (by decide)]
        simp [frameHdrWrite, hb.winSize]
      exact .of_zero hzero (by decide) (by omega)
    · have hsmall : h.curAckVec < 256 := hb.curAckVec.trans_le (two_pow_le_of_le hfew)
      have hzero : frameRaw checksum h seg m 11 = 0 := by
        rw [hbyte m 10 (by decide)]
        simp [frameHdrWrite, hi8, Nat.div_eq_of_lt hsmall]
      exact .of_zero hzero (by decide) (by omega)

/-! ## The send side -/

/-- No target vector has more than `segs` bits. -/
def SendFits (segs : Nat) (sw : SendWnd) : Prop :=
  ∀ j, j < sw.w.cap → (sw.w.msg j).fullAckVec < 2 ^ segs

theorem ackVecOf_lt {n segs : Nat} (h : n ≤ segs) : ackVecOf n < 2 ^ segs := by
  have hle : ackVecOf n ≤ 2 ^ n - 1 := Nat.mod_le _ _
  have hpow := two_pow_le_of_le h
  have := Nat.two_pow_pos n
  omega

section

variable {segs segLen cap : Nat} {sw sw' : SendWnd}

/-- The send window and its vectors are within their bounds. -/
structure SendVecs (cap segs segLen : Nat) (sw : SendWnd) : Prop where
  bounded : SendBounded cap (segs * segLen) segLen sw
  fits : SendFits segs sw

theorem SendVecs.segCount_le (h : SendVecs cap segs segLen sw) (hpos : 0 < segLen)
    (hsmall : segLen < 65536) {j : Nat} (hj : j < sw.w.cap) :
    segCount sw.w.segLen (sw.w.msg j).len ≤ segs := by
  have hlen := h.bounded.len_le j hj
  rw [h.bounded.dims.msgLen_eq] at hlen
  rw [h.bounded.dims.segLen_eq, u16_of_lt hsmall, NanoArq.segCount_le hpos]
  exact hlen.trans (Nat.mod_le _ _)

theorem SendVecs.step (h : SendVecs cap segs segLen sw) (hpos : 0 < segLen)
    (hsmall : segLen < 65536) (hcap : 0 < u16 cap) (op : SendOp) :
    SendVecs cap segs segLen (sendOpStep sw op) := by
  refine ⟨h.bounded.step hcap op, ?_⟩
  have hfull : sw.w.fullAckVec < 2 ^ segs := by
    rw [h.bounded.dims.full_eq, Nat.mul_div_cancel _ hpos]
    exact ackVecOf_lt le_rfl
  have hdims := sendOpStep_dims h.bounded.dims op
  intro j hj
  rw [hdims.cap_eq, ← h.bounded.dims.cap_eq] at hj
  obtain hkept | hreset | ⟨-, hflushed⟩ := sendOpStep_target sw op j
  · rw [hkept]
    exact h.fits j hj
  · rw [hreset]
    exact hfull
  · rw [hflushed]
    exact ackVecOf_lt (h.segCount_le hpos hsmall hj)

theorem SendVecs.run (h : SendVecs cap segs segLen sw) (hpos : 0 < segLen)
    (hsmall : segLen < 65536) (hcap : 0 < u16 cap) (hrun : SendRun sw sw') :
    SendVecs cap segs segLen sw' := by
  induction hrun with
  | start => exact h
  | next _ op _ ih => exact ih.step hpos hsmall hcap op

theorem sendWndOpen_vecs (seat : SendWnd) (hpos : 0 < segLen) :
    SendVecs cap segs segLen (sendWndOpen seat cap (segs * segLen) segLen) := by
  refine ⟨sendWndOpen_bounded _ _ _ _, ?_⟩
  intro j hj
  have hmsg : (sendWndOpen seat cap (segs * segLen) segLen).w.msg j =
      msgEmpty (ackVecOf (segs * segLen / segLen)) := wndRst_msg _ hj
  rw [hmsg, Nat.mul_div_cancel _ hpos]
  exact ackVecOf_lt le_rfl

/-- Wherever the send pointer moves, it names a segment of a message. -/
theorem sendWndPtrNext_bounds (h : SendFits segs sw) (hcap : 0 < sw.w.cap) (hsegs : segs ≤ 12)
    {p : SendWndPtr} (hp : p.seq < seqSpace) :
    (sendWndPtrNext p sw).1.seq < seqSpace ∧
      ((sendWndPtrNext p sw).1.valid = true → (sendWndPtrNext p sw).1.seg < segs) := by
  have hsearch : ∀ p' : SendWndPtr, p'.seq < seqSpace → (sendWndPtrSearch p' sw).seq < seqSpace ∧
      ((sendWndPtrSearch p' sw).valid = true → (sendWndPtrSearch p' sw).seg < segs) := by
    intro p' hp'
    obtain ⟨i, -, ⟨-, -, -, hopen⟩, -, heq⟩ | ⟨-, heq⟩ := sendWndPtrSearch_cases p' sw
    · rw [heq]
      dsimp only at hopen
      refine ⟨(Nat.mod_le _ _).trans_lt (Nat.mod_lt _ (by decide)), fun _ => ?_⟩
      have hfull := h _ (Nat.mod_lt ((i + sw.w.seq) % seqSpace) hcap)
      have hpow : 2 ^ segs ≤ 2 ^ 12 := two_pow_le_of_le hsegs
      obtain ⟨hfirst, -⟩ :=
        @ctz_not32 (sw.w.msg ((i + sw.w.seq) % seqSpace % sw.w.cap)).curAckVec (by omega)
      exact (Nat.mod_le _ _).trans_lt (lt_of_first_zero hfirst (by omega))
    · rw [heq]
      exact ⟨hp', fun hv => by cases hv⟩
  unfold sendWndPtrNext
  split
  · dsimp only
    split
    · rename_i hin
      refine ⟨hp, fun _ => ?_⟩
      have hfull := h _ (Nat.mod_lt p.seq hcap)
      by_contra hge
      have hpow := two_pow_le_of_le (Nat.not_lt.mp hge)
      unfold ptrInside at hin
      dsimp only at hpow
      omega
    · exact hsearch _ hp
  · exact hsearch _ hp

end

/-! ## The receive side -/

/-- No received vector has more than `segs` bits. -/
def RecvFits (segs : Nat) (rw : RecvWnd) : Prop :=
  ∀ j, j < rw.w.cap → (rw.w.msg j).curAckVec < 2 ^ segs

section

variable {segs : Nat} {rw : RecvWnd}

theorem RecvFits.store (h : RecvFits segs rw) {seq seg segCnt : Nat} (hseg : seg < segs)
    (p : List UInt8) (interSegAck : Nat) :
    RecvFits segs (recvWndStore rw seq seg segCnt p interSegAck).1 := by
  intro j hj
  have hcap : (recvWndStore rw seq seg segCnt p interSegAck).1.w.cap = rw.w.cap := by
    rw [(recvWndStore_rest rw seq seg segCnt p interSegAck).1]
  rw [hcap] at hj
  have hset : ∀ vec, vec < 2 ^ segs → u16 (vec ||| 2 ^ seg) < 2 ^ segs := fun vec hvec =>
    (Nat.mod_le _ _).trans_lt (Nat.or_lt_two_pow hvec (Nat.pow_lt_pow_right (by decide) hseg))
  have hupdate : ∀ m : Msg, m.curAckVec < 2 ^ segs →
      (Function.update rw.w.msg (seq % rw.w.cap) m j).curAckVec < 2 ^ segs := by
    intro m hm
    by_cases hjs : j = seq % rw.w.cap
    · rw [hjs, Function.update_self]
      exact hm
    · rw [Function.update_of_ne hjs]
      exact h j hj
  have hslot := h _ (Nat.mod_lt seq (Nat.zero_lt_of_lt hj))
  unfold recvWndStore
  dsimp only
  split_ifs
  · exact h j hj
  · exact hupdate _ (hset _ hslot)
  · exact hupdate _ (hset _ hslot)

theorem RecvFits.frame (h : RecvFits segs rw) {seq seg segCnt : Nat} (hseg : seg < segs)
    (p : List UInt8) (interSegAck : Nat) :
    RecvFits segs (recvWndFrame rw seq seg segCnt p interSegAck).1 := by
  unfold recvWndFrame
  cases hslide : recvWndSlide rw seq with
  | none => exact h
  | some rw' =>
    refine RecvFits.store ?_ hseg p interSegAck
    rw [recvWndSlide_rest hslide]
    exact h

theorem RecvFits.of_w {rw' : RecvWnd} (h : RecvFits segs rw) (hw : rw'.w = rw.w) :
    RecvFits segs rw' := by
  unfold RecvFits
  rw [hw]
  exact h

theorem RecvFits.recv (h : RecvFits segs rw) (dstMax : Nat) :
    RecvFits segs (recvWndRecv rw dstMax).1 := by
  intro j hj
  rw [recvWndRecv_rest] at hj
  obtain hsame | hempty := recvWndRecv_slot rw dstMax j
  · rw [hsame]
    exact h j hj
  · rw [hempty]
    exact Nat.two_pow_pos _

theorem recvWndRst_fits (rw : RecvWnd) : RecvFits segs (recvWndRst rw) := by
  intro j hj
  have hmsg : (recvWndRst rw).w.msg j = msgEmpty rw.w.fullAckVec := wndRst_msg _ hj
  rw [hmsg]
  exact Nat.two_pow_pos _

/-- The frame that a poll accepts, if any, is a data frame of a message of `segs` segments. -/
def ReadFits (segs : Nat) (arq : Arq) : Prop :=
  ∀ r, pollRead arq = some r → r.result = .success → r.hdr.seg = true → r.hdr.segId < segs

theorem RecvFits.received {arq : Arq} (h : RecvFits segs arq.recvWnd) (hread : ReadFits segs arq)
    (dt : Nat) : RecvFits segs (pollReceived arq dt) := by
  refine RecvFits.of_w ?_ (by rw [pollReceived, recvPollTimer_w])
  exact recvPollFrame_induct h fun r hr hok hseg => h.frame (hread r hr hok hseg) _ _

end

/-! ## The frame of a poll -/

section

variable {b : Build} {arq : Arq} {cfg : Cfg} {dt : Nat}

/-- What the frames of an instance depend on. -/
structure SideSound (cfg : Cfg) (arq : Arq) : Prop where
  cfg_eq : arq.cfg = cfg
  segs_pos : 0 < cfg.messageLengthInSegments
  segLen_pos : 0 < cfg.segmentLengthInBytes
  send : SendVecs cfg.sendWindowSizeInMessages cfg.messageLengthInSegments cfg.segmentLengthInBytes
    arq.sendWnd
  recv : RecvBounded cfg.recvWindowSizeInMessages
    (cfg.messageLengthInSegments * cfg.segmentLengthInBytes) cfg.segmentLengthInBytes arq.recvWnd
  ptr : arq.sendWndPtr.seq < seqSpace
  vecs : RecvFits cfg.messageLengthInSegments arq.recvWnd

theorem Representable.segLen_lt (hcfg : Representable cfg) : cfg.segmentLengthInBytes < 65536 := by
  obtain h | h := hcfg.segLen
  · omega
  · omega

theorem SideSound.of_run {seat arq₀ : Arq} (hinit : arqInit b cfg seat = .ok arq₀)
    (hcfg : Representable cfg) (hrun : Run (perform b) (fun _ _ => True) arq₀ arq)
    (hptr : arq.sendWndPtr.seq < seqSpace) (hvecs : RecvFits cfg.messageLengthInSegments arq.recvWnd) :
    SideSound cfg arq := by
  obtain ⟨hsegs, hsegLen, -, -⟩ := checkCfg_pos (arqInit_check hinit)
  obtain ⟨seat₁, hsend⟩ := instance_sendRun hinit hrun
  obtain ⟨seat₂, hrecv⟩ := instance_recvRun hinit hrun
  refine ⟨?_, hsegs, hsegLen, ?_, hrecv.bounded, hptr, hvecs⟩
  · have hcfg₀ : arq₀.cfg = cfg := by
      rw [arqInit_ok hinit]
      rfl
    exact (run_cfg hrun).trans hcfg₀
  · exact (sendWndOpen_vecs seat₁ hsegLen).run hsegLen hcfg.segLen_lt hcfg.sendCap hsend

theorem SideSound.timers (h : SideSound cfg arq) (hcfg : Representable cfg) (dt : Nat) :
    SendVecs cfg.sendWindowSizeInMessages cfg.messageLengthInSegments cfg.segmentLengthInBytes
      (pollTimers arq dt) :=
  h.send.run h.segLen_pos hcfg.segLen_lt hcfg.sendCap (.timers _ _ _)

theorem SideSound.ptr_next (h : SideSound cfg arq) (hcfg : Representable cfg) (dt : Nat) :
    (sendWndPtrNext arq.sendWndPtr (pollTimers arq dt)).1.seq < seqSpace ∧
      ((sendWndPtrNext arq.sendWndPtr (pollTimers arq dt)).1.valid = true →
        (sendWndPtrNext arq.sendWndPtr (pollTimers arq dt)).1.seg < cfg.messageLengthInSegments) := by
  have hs := h.timers hcfg dt
  refine sendWndPtrNext_bounds hs.fits ?_ hcfg.segs h.ptr
  rw [hs.bounded.dims.cap_eq]
  exact hcfg.sendCap

/-- The header that the connection is given keeps to the bounds of the configuration. -/
theorem SideSound.hdr (h : SideSound cfg arq) (hcfg : Representable cfg)
    (hread : ReadFits cfg.messageLengthInSegments arq) :
    HdrBounds cfg.messageLengthInSegments (pollConnSh arq dt) := by
  have hs := h.timers hcfg dt
  obtain ⟨hseq, hseg⟩ := h.ptr_next hcfg dt
  have hrecv := h.vecs.received hread dt
  have hdims : (pollReceived arq dt).w.cap = u16 cfg.recvWindowSizeInMessages := by
    have hrun : RecvRun arq.recvWnd (pollReceived arq dt) := .poll _ _ _ none _ _ _
    exact (hrun.keeps h.recv).dims.cap_eq
  have hacked : HdrBounds cfg.messageLengthInSegments
      (recvPollAck (pollReceived arq dt) frameHdrInit).2 := by
    have hzero : 0 < seqSpace := by decide
    obtain ⟨i, -, -, heq⟩ | ⟨-, heq⟩ := recvPollAck_cases (pollReceived arq dt) frameHdrInit
    · rw [heq]
      refine ⟨rfl, rfl, hzero, Nat.zero_le _, h.segs_pos, Nat.mod_lt _ hzero, hrecv _ (Nat.mod_lt _ ?_)⟩
      rw [hdims]
      exact hcfg.recvCap
    · rw [heq]
      exact ⟨rfl, rfl, hzero, Nat.zero_le _, h.segs_pos, hzero, Nat.two_pow_pos _⟩
  unfold pollConnSh sendPollHdr
  generalize (recvPollAck (pollReceived arq dt) frameHdrInit).2 = sh at hacked ⊢
  split
  · rename_i hvalid
    refine ⟨hacked.version, hacked.winSize, hseq, ?_, hseg hvalid, hacked.ackNum, hacked.curAckVec⟩
    refine hs.segCount_le h.segLen_pos hcfg.segLen_lt (Nat.mod_lt _ ?_)
    rw [hs.bounded.dims.cap_eq]
    exact hcfg.sendCap
  · exact hacked

theorem SideSound.frame (h : SideSound cfg arq) (hcfg : Representable cfg)
    (hread : ReadFits cfg.messageLengthInSegments arq) {hd : FrameHdr} {payload : List UInt8}
    (hframe : pollFrame (pollWork b arq dt) = some (hd, payload)) :
    HdrBounds cfg.messageLengthInSegments hd ∧ WireFits cfg.checksum hd payload := by
  obtain ⟨n, r, a, rfl, -⟩ := pollFrame_hdr hframe
  have hb := @SideSound.hdr arq cfg dt h hcfg hread
  have hbounds : HdrBounds cfg.messageLengthInSegments
      { pollConnSh arq dt with segLen := n, rst := r, ack := a } :=
    ⟨hb.version, hb.winSize, hb.seqNum, hb.msgLen, hb.segId, hb.ackNum, hb.curAckVec⟩
  refine ⟨hbounds, hbounds.wireFits hcfg ?_ ?_⟩
  · exact pollFrame_length hframe
  · have hle := pollFrame_segLen hframe
    rw [(h.timers hcfg dt).bounded.dims.segLen_eq] at hle
    exact hle.trans (Nat.mod_le _ _)

/-- The frame that a poll leaves in the send frame is read back as it was written. -/
def PollReadable (b : Build) (arq : Arq) (dt : Nat) : Prop :=
  ∀ hd payload, pollFrame (pollWork b arq dt) = some (hd, payload) →
    let f := (backendPoll b arq dt).1.sendFrame
    (cobsDecodeGo (f.len - 1) (f.len - 1) f.buf 0).2 = f.len - 1 ∧
      (frameRead f.buf f.len arq.cfg.checksum).outcome = (.success, hd, payload)

theorem SideSound.readable (h : SideSound cfg arq) (hcfg : Representable cfg)
    (hread : ReadFits cfg.messageLengthInSegments arq) : PollReadable b arq dt := by
  intro hd payload hframe
  obtain ⟨-, hfits⟩ := h.frame hcfg hread hframe
  have hlen : u16 (frameWrite hd payload arq.cfg.checksum arq.sendFrame.buf).2 =
      frameLen hd.segLen := by
    have := hfits.hdr.segLen
    refine u16_of_lt ?_
    rw [frameWrite_eq, frameLen_eq]
    omega
  have hsent : (backendPoll b arq dt).1.sendFrame =
      { arq.sendFrame with
        buf := (frameWrite hd payload arq.cfg.checksum arq.sendFrame.buf).1
        len := u16 (frameWrite hd payload arq.cfg.checksum arq.sendFrame.buf).2
        state := .free } := by
    rw [backendPoll_sendFrame, hframe]
  have hbytes := frameWrite_bytes hfits arq.sendFrame.buf
  rw [← h.cfg_eq] at hfits hbytes
  obtain ⟨hend, hresult, hhdr, hseg⟩ := frameRead_encode hfits hbytes
  rw [hsent]
  dsimp only
  rw [hlen]
  refine ⟨hend, ?_⟩
  rw [FrameRead.outcome, hresult, hhdr, hseg]

end

/-! ## Two instances -/

def Side.other : Side → Side
  | .left => .right
  | .right => .left

/-- Two instances, with the frames that each has written. -/
structure Peers where
  arq : Side → Arq
  sent : Side → List (FrameHdr × List UInt8)

def callFrames (b : Build) (arq : Arq) : Call → List (FrameHdr × List UInt8)
  | .poll dt => (pollFrame (pollWork b arq dt)).toList
  | _ => []

def peersStep (b : Build) (s : Peers) (a : Side × Call) : Peers where
  arq := Function.update s.arq a.1 (perform b (s.arq a.1) a.2)
  sent := Function.update s.sent a.1 (s.sent a.1 ++ callFrames b (s.arq a.1) a.2)

/-- A data frame that a poll accepts is one that the other side has written. -/
def FromPeer (s : Peers) (a : Side × Call) : Prop :=
  ∀ dt, a.2 = .poll dt → ∀ r, pollRead (s.arq a.1) = some r → r.result = .success →
    r.hdr.seg = true → (r.hdr, r.seg) ∈ s.sent a.1.other

section

variable {b : Build} {cfg : Cfg} {seat arq₀ : Side → Arq} {s : Peers}

/-- Each side by itself makes calls of the API. -/
theorem Peers.side_run (hrun : Run (peersStep b) FromPeer ⟨arq₀, fun _ => []⟩ s) (x : Side) :
    Run (perform b) (fun _ _ => True) (arq₀ x) (s.arq x) := by
  refine Run.map (fun s : Peers => s.arq x) ?_ hrun
  intro s a _
  rw [peersStep]
  dsimp only
  by_cases hx : x = a.1
  · subst hx
    rw [Function.update_self]
    exact .next .start a.2 trivial
  · rw [Function.update_of_ne hx]
    exact .start

/-- What the induction over the run of a pair keeps, beside the bounds of the windows. -/
structure PeersSound (cfg : Cfg) (s : Peers) : Prop where
  ptr : ∀ x, (s.arq x).sendWndPtr.seq < seqSpace
  vecs : ∀ x, RecvFits cfg.messageLengthInSegments (s.arq x).recvWnd
  sent : ∀ x, ∀ p ∈ s.sent x, p.1.segId < cfg.messageLengthInSegments

theorem PeersSound.side (h : PeersSound cfg s) (hinit : ∀ x, arqInit b cfg (seat x) = .ok (arq₀ x))
    (hcfg : Representable cfg) (hrun : Run (peersStep b) FromPeer ⟨arq₀, fun _ => []⟩ s) (x : Side) :
    SideSound cfg (s.arq x) :=
  .of_run (hinit x) hcfg (Peers.side_run hrun x) (h.ptr x) (h.vecs x)

theorem PeersSound.read_fits (h : PeersSound cfg s) {x : Side} {dt : Nat}
    (hpeer : FromPeer s (x, .poll dt)) : ReadFits cfg.messageLengthInSegments (s.arq x) :=
  fun r hr hok hseg => h.sent _ _ (hpeer dt rfl r hr hok hseg)

/-- A call of one side keeps its pointer and its vectors within bounds. -/
theorem SideSound.perform {arq : Arq} (h : SideSound cfg arq) (hcfg : Representable cfg) (c : Call)
    (hread : ∀ dt, c = .poll dt → ReadFits cfg.messageLengthInSegments arq) :
    (perform b arq c).sendWndPtr.seq < seqSpace ∧
      RecvFits cfg.messageLengthInSegments (perform b arq c).recvWnd ∧
      ∀ p ∈ callFrames b arq c, p.1.segId < cfg.messageLengthInSegments := by
  cases c with
  | poll dt =>
    have hread := hread dt rfl
    refine ⟨?_, ?_, ?_⟩
    · change (pollWork b arq dt).sendWndPtr.seq < _
      rw [pollWork_sendWndPtr]
      split
      · exact (h.ptr_next hcfg dt).1
      · exact h.ptr
    · change RecvFits _ (pollWork b arq dt).recvWnd
      rw [pollWork_recvWnd]
      have hreceived := h.vecs.received hread dt
      split
      · exact hreceived.of_w (by rw [recvPollAck_recvWnd, recvWndAck_w])
      · exact hreceived
    · intro p hp
      exact (h.frame hcfg hread (Option.mem_toList.mp hp)).1.segId
  | recv n =>
    refine ⟨?_, ?_, fun p hp => absurd hp (by simp [callFrames])⟩
    · rw [(perform_sendWnd b arq (by simp) (by simp) (by simp) (by simp)).2]
      exact h.ptr
    · simp only [NanoArq.perform, arqRecv]
      split
      · exact h.vecs
      · exact h.vecs.recv n
  | reset =>
    refine ⟨?_, recvWndRst_fits _, fun p hp => absurd hp (by simp [callFrames])⟩
    exact show 0 < seqSpace by decide
  | send data =>
    refine ⟨?_, ?_, fun p hp => absurd hp (by simp [callFrames])⟩
    · simp only [NanoArq.perform, arqSend]
      split <;> exact h.ptr
    · rw [perform_recvWnd b arq (by simp) (by simp) (by simp)]
      exact h.vecs
  | flush =>
    refine ⟨h.ptr, h.vecs, fun p hp => absurd hp (by simp [callFrames])⟩
  | sendPtrGet | sendPtrRelease | recvFill | connect =>
    refine ⟨?_, ?_, fun p hp => absurd hp (by simp [callFrames])⟩
    · rw [(perform_sendWnd b arq (by simp) (by simp) (by simp) (by simp)).2]
      exact h.ptr
    · rw [perform_recvWnd b arq (by simp) (by simp) (by simp)]
      exact h.vecs

theorem peersSound_run (hinit : ∀ x, arqInit b cfg (seat x) = .ok (arq₀ x))
    (hcfg : Representable cfg) (hrun : Run (peersStep b) FromPeer ⟨arq₀, fun _ => []⟩ s) :
    PeersSound cfg s := by
  induction hrun with
  | start =>
    have hok : ∀ x, arq₀ x = rstArq b (initArq { seat x with cfg := cfg }) :=
      fun x => arqInit_ok (hinit x)
    refine ⟨?_, ?_, fun x p hp => by cases hp⟩
    · intro x
      dsimp only
      rw [hok x]
      change 0 < seqSpace
      decide
    · intro x
      dsimp only
      rw [hok x]
      exact recvWndRst_fits _
  | @next s hrun a hpeer ih =>
    have hread : ∀ dt, a.2 = .poll dt → ReadFits cfg.messageLengthInSegments (s.arq a.1) := by
      intro dt hdt
      refine @PeersSound.read_fits cfg s ih a.1 dt ?_
      rw [← hdt]
      exact hpeer
    obtain ⟨hptr, hvecs, hsent⟩ :=
      (ih.side hinit hcfg hrun a.1).perform (b := b) hcfg a.2 hread
    refine ⟨?_, ?_, ?_⟩
    · intro x
      by_cases hx : x = a.1
      · subst hx
        simp only [peersStep, Function.update_self]
        exact hptr
      · simp only [peersStep, Function.update_of_ne hx]
        exact ih.ptr x
    · intro x
      by_cases hx : x = a.1
      · subst hx
        simp only [peersStep, Function.update_self]
        exact hvecs
      · simp only [peersStep, Function.update_of_ne hx]
        exact ih.vecs x
    · intro x p hp
      by_cases hx : x = a.1
      · subst hx
        simp only [peersStep, Function.update_self] at hp
        rcases List.mem_append.mp hp with hp | hp
        · exact ih.sent _ p hp
        · exact hsent p hp
      · simp only [peersStep, Function.update_of_ne hx] at hp
        exact ih.sent x p hp

/-- The dimensions of a window are those of the configuration, and its ACK vectors fit the wire. -/
structure WidthsKept (cfg : Cfg) (w : Wnd) : Prop where
  segLen : w.segLen = cfg.segmentLengthInBytes
  msgLen : w.msgLen = cfg.messageLengthInSegments * cfg.segmentLengthInBytes
  full : w.fullAckVec = 2 ^ cfg.messageLengthInSegments - 1
  full_lt : w.fullAckVec < seqSpace

theorem WndDims.widths {w : Wnd} {cap : Nat} (hcfg : Representable cfg)
    (hpos : 0 < cfg.segmentLengthInBytes)
    (h : WndDims cap (cfg.messageLengthInSegments * cfg.segmentLengthInBytes)
      cfg.segmentLengthInBytes w) : WidthsKept cfg w := by
  have hsegs := hcfg.segs
  have hmul : cfg.messageLengthInSegments * cfg.segmentLengthInBytes ≤ 12 * 249 :=
    Nat.mul_le_mul hsegs (by obtain h | h := hcfg.segLen <;> omega)
  have hpow := two_pow_le_of_le hsegs
  have hpos' := Nat.two_pow_pos cfg.messageLengthInSegments
  have hfull : w.fullAckVec = 2 ^ cfg.messageLengthInSegments - 1 := by
    rw [h.full_eq, Nat.mul_div_cancel _ hpos, ackVecOf, u16_of_lt]
    omega
  refine ⟨h.segLen_eq.trans (u16_of_lt hcfg.segLen_lt), h.msgLen_eq.trans (u16_of_lt (by omega)),
    hfull, ?_⟩
  rw [hfull]
  unfold seqSpace
  omega

end

/-! ## The limits are reached, and not checked -/

theorem fromPeer_poll {s : Peers} {x : Side} {dt : Nat} :
    FromPeer s (x, .poll dt) ↔ ∀ r ∈ pollRead (s.arq x), r.result = .success → r.hdr.seg = true →
      (r.hdr, r.seg) ∈ s.sent x.other :=
  ⟨fun h r hr => h dt rfl r hr, fun h _ _ r hr => h r hr⟩

instance (s : Peers) : (a : Side × Call) → Decidable (FromPeer s a)
  | (x, .poll _) =>
    match hread : pollRead (s.arq x) with
    | none => .isTrue (fromPeer_poll.mpr (by simp [hread]))
    | some r =>
      decidable_of_iff (r.result = .success → r.hdr.seg = true → (r.hdr, r.seg) ∈ s.sent x.other)
        (by simp [fromPeer_poll, hread])
  | (_, .send _) => .isTrue fun _ h => by cases h
  | (_, .flush) => .isTrue fun _ h => by cases h
  | (_, .recv _) => .isTrue fun _ h => by cases h
  | (_, .sendPtrGet) => .isTrue fun _ h => by cases h
  | (_, .sendPtrRelease) => .isTrue fun _ h => by cases h
  | (_, .recvFill _) => .isTrue fun _ h => by cases h
  | (_, .connect) => .isTrue fun _ h => by cases h
  | (_, .reset) => .isTrue fun _ h => by cases h

/-- The left side writes a frame, and the right side receives it. -/
def peersCarry (b : Build) (s : Peers) : List (Side × Call) :=
  let s' := [(Side.left, Call.poll 0), (.left, .sendPtrGet)].foldl (peersStep b) s
  [(Side.left, Call.poll 0), (.left, .sendPtrGet), (.left, .sendPtrRelease),
    (.right, .recvFill (slice (s'.arq .left).sendFrame.buf 0 (s'.arq .left).sendFrame.len)),
    (.right, .poll 0)]

/-- `n` frames cross. -/
def peersCarries (b : Build) : Nat → Peers → List (Side × Call)
  | 0, _ => []
  | n + 1, s => peersCarry b s ++ peersCarries b n ((peersCarry b s).foldl (peersStep b) s)

/-- Two sides with messages of `segs` segments of one byte. -/
def wireSampleStart (segs : Nat) : Peers := ⟨fun _ => freshArq ⟨false⟩ (smallCfg 1 segs 1), fun _ => []⟩

/-- A message of `segs` segments crosses, up to the poll of the right side that will answer it. -/
def wireSampleCalls (segs : Nat) : List (Side × Call) :=
  let send := (Side.left, Call.send (List.replicate segs 7))
  send :: (peersCarries ⟨false⟩ segs (peersStep ⟨false⟩ (wireSampleStart segs) send)).dropLast

def wireSample (segs : Nat) : Peers :=
  (wireSampleCalls segs).foldl (peersStep ⟨false⟩) (wireSampleStart segs)

end NanoArq
