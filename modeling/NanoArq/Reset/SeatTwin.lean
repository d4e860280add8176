import NanoArq.Buffers
import NanoArq.Poll.HandOff
import NanoArq.Reset.Twin

/-!
# Separate arrays and one memory

`perform` gives the receive window and the two frames an array each, `seatPerform` one memory. Calls that
stay inside the buffer of the receive window (`StaysInside`) do not tell the two apart.

* `SameBytes`: the instances differ in bytes without a mark only.
* `ArraysSound.sameBytes`: one call on the memory and on the arrays.
* `Twin.seatStep`: two instances on memories of their own.
* `seat_as_separate`: the theorem about every run.
-/

namespace NanoArq

open Lib

/-! ## Calls -/

/-- What a call stores in the buffer of the receive window, or copies from it, lies in it. -/
def StaysInside (arq : Arq) : Call → Prop
  | .poll _ =>
    let stored := recvPollStored arq.recvWnd arq.recvFrame arq.cfg.checksum
    stored.2 = 0 ∨ stored.1 + stored.2 ≤ recvBufLen arq.cfg
  | .recv recvMax =>
    arq.needPoll = false →
      ∀ r ∈ recvReads arq.recvWnd recvMax, r.2 = 0 ∨ r.1 + r.2 ≤ recvBufLen arq.cfg
  | _ => True

instance (arq : Arq) (c : Call) : Decidable (StaysInside arq c) :=
  match c with
  | .poll _ => inferInstanceAs (Decidable (_ ∨ _))
  | .recv _ => inferInstanceAs (Decidable (_ → ∀ r ∈ _, _))
  | .send _ => .isTrue trivial
  | .flush => .isTrue trivial
  | .sendPtrGet => .isTrue trivial
  | .sendPtrRelease => .isTrue trivial
  | .recvFill _ => .isTrue trivial
  | .connect => .isTrue trivial
  | .reset => .isTrue trivial

/-- What a call on the memory of the seat returns. -/
def seatResult (b : Build) (arq : Arq) : Call → CallResult
  | .poll dt => .polled (seatPoll b arq dt).2
  | c => callResult b arq c

/-- The instance on which a call runs: that of a poll has decoded its frame. -/
def Arq.readied (arq : Arq) : Call → Arq
  | .poll _ => arq.decoded
  | _ => arq

theorem seatResult_eq (b : Build) (arq : Arq) (c : Call) :
    seatResult b arq c = callResult b (arq.readied c) c := by
  cases c <;> rfl

/-! ## The same bytes -/

/-- The instance with other bytes in its arrays. -/
def Arq.withBytes (arq : Arq) (wnd out frame : Buf) : Arq :=
  { arq with
    recvWnd := { arq.recvWnd with w := { arq.recvWnd.w with buf := wnd } }
    sendFrame := { arq.sendFrame with buf := out }
    recvFrame := { arq.recvFrame with buf := frame } }

/-- The instances differ at most in bytes of the receive side without a mark, and in those of the send
frame that are not in use. -/
def SameBytes (m : Marks) (a x : Arq) : Prop :=
  ∃ wnd out frame, x = a.withBytes wnd out frame ∧ Agree m.recvBuf a.recvWnd.w.buf wnd ∧
    Agree m.frameBuf a.recvFrame.buf frame ∧
    slice a.sendFrame.buf 0 a.sendFrame.len = slice out 0 a.sendFrame.len

section

variable {m : Marks} {a a' x : Arq} {s : Mem Bool} {rw rw' : RecvWnd} {rf rf' : RecvFrame} {buf : Buf}

theorem SameBytes.refl (m : Marks) (a : Arq) : SameBytes m a a :=
  ⟨_, _, _, rfl, fun _ _ => rfl, fun _ _ => rfl, rfl⟩

theorem RecvTwin.right (h : RecvTwin s rw rw') (hbuf : Agree s rw'.w.buf buf) :
    RecvTwin s rw { rw' with w := { rw'.w with buf := buf } } := by
  obtain ⟨msg, old, ack, rfl, hw, hack⟩ := h
  exact ⟨msg, buf, ack, rfl, ⟨hw.cap_pos, hw.msg, fun i hi => (hw.buf i hi).trans (hbuf i hi)⟩, hack⟩

theorem RecvTwin.left (h : RecvTwin s rw rw') (hbuf : Agree s rw.w.buf buf) :
    RecvTwin s { rw with w := { rw.w with buf := buf } } rw' := by
  obtain ⟨msg, old, ack, rfl, hw, hack⟩ := h
  exact ⟨msg, old, ack, rfl,
    ⟨hw.cap_pos, hw.msg, fun i hi => (hbuf i hi).symm.trans (hw.buf i hi)⟩, hack⟩

theorem FrameTwin.right (h : FrameTwin s rf rf') (hbuf : Agree s rf'.buf buf) :
    FrameTwin s rf { rf' with buf := buf } := by
  obtain ⟨old, rfl, hagree, hlen⟩ := h
  exact ⟨buf, rfl, fun i hi => (hagree i hi).trans (hbuf i hi), hlen⟩

theorem FrameTwin.left (h : FrameTwin s rf rf') (hbuf : Agree s rf.buf buf) :
    FrameTwin s { rf with buf := buf } rf' := by
  obtain ⟨old, rfl, hagree, hlen⟩ := h
  exact ⟨old, rfl, fun i hi => (hbuf i hi).symm.trans (hagree i hi), hlen⟩

theorem Twin.right (h : Twin m a a') (hx : SameBytes m a' x) : Twin m a x := by
  obtain ⟨wnd, out, frame, rfl, hwnd, hframe, hout⟩ := hx
  rw [h.outLen] at hout
  exact ⟨h.cfg, h.needPoll, h.ptr, h.send, h.recv.right hwnd, h.frame.right hframe, h.outLen,
    h.outState, h.outBytes.trans hout, h.conn⟩

theorem Twin.left (h : Twin m a a') (hx : SameBytes m a x) : Twin m x a' := by
  obtain ⟨wnd, out, frame, rfl, hwnd, hframe, hout⟩ := hx
  exact ⟨h.cfg, h.needPoll, h.ptr, h.send, h.recv.left hwnd, h.frame.left hframe, h.outLen,
    h.outState, hout.symm.trans h.outBytes, h.conn⟩

end

/-! ## One call -/

/-- The marks lie in the buffer of the receive window. -/
def Marks.Inside (m : Marks) (cfg : Cfg) : Prop := ∀ i, m.recvBuf i = true → i < recvBufLen cfg

section

variable {b : Build} {cfg : Cfg} {m : Marks} {a a' s s' : Arq} {dt : Nat}

theorem Marks.Inside.after (h : m.Inside cfg) (hs : ArraysSound cfg s) {c : Call}
    (hin : StaysInside s c) : (marksAfter s m c).Inside cfg := by
  cases c with
  | poll dt =>
    intro i hi
    rcases of_paint hi with hold | hrange
    · exact h i hold
    · rcases hin with hnone | hle
      · omega
      · have hend := hle.trans_eq (congrArg recvBufLen hs.cfg_eq)
        omega
  | send data =>
    simp only [marksAfter]
    split <;> exact h
  | flush | recv | sendPtrGet | sendPtrRelease | recvFill | connect | reset => exact h

theorem decoded_sameBytes (h : m.Inside cfg) (hs : ArraysSound cfg s) :
    SameBytes m s s.decoded := by
  refine ⟨s.decoded.mem, s.sendFrame.buf, s.recvFrame.buf, ?_, fun i hi => ?_, fun _ _ => rfl, rfl⟩
  · unfold Arq.decoded
    split <;> rfl
  · refine (decoded_mem_of_lt ?_).symm
    have hlt := h i hi
    rw [hs.cfg_eq, recvFrameOfs]
    omega

/-- A segment that stays inside the window leaves the rest of the memory. -/
theorem storedMem_of_ge (hs : ArraysSound cfg s) (hin : StaysInside s (.poll dt)) {i : Nat}
    (hi : recvBufLen cfg ≤ i) : storedMem b s dt i = s.decoded.mem i := by
  obtain ⟨p, hp, hmem⟩ := storedMem_eq b s dt
  rw [hmem]
  rcases hin with hnone | hle
  · rw [hnone, List.length_eq_zero_iff] at hp
    rw [hp, memcpy_nil]
  · have hend := hle.trans_eq (congrArg recvBufLen hs.cfg_eq)
    exact memcpy_of_ge _ _ (by omega)

/-- The frame that was received, in the memory after the poll that has decoded it. -/
theorem decoded_mem_frame (hs : ArraysSound cfg s) (i : Nat) :
    s.decoded.mem (recvFrameOfs cfg + i) = (backendPoll b s.decoded dt).1.recvFrame.buf i := by
  rw [backendPoll_recvFrame, pollWork_recvFrame, decoded_recvFrame, decoded_cfg]
  unfold Arq.decoded
  split
  · rw [hs.cfg_eq]
    exact setTail_add _ _ _ _
  · rw [hs.seated.recvFrame, hs.cfg_eq]
    rfl

theorem poll_sameBytes (h : m.Inside cfg) (hs : ArraysSound cfg s)
    (hfit : frameLen cfg.segmentLengthInBytes < 65536) (hin : StaysInside s (.poll dt)) :
    SameBytes m (backendPoll b s.decoded dt).1 (seatPoll b s dt).1 := by
  have hplace := hs.place hfit
  have hspares : SparesFrame s (.poll dt) := fun _ => hin.imp_right Or.inl
  have hdims := hs.send
  rw [← decoded_sendWnd] at hdims
  have hbelow : ∀ i, i < recvBufLen cfg → (seatPoll b s dt).1.mem i = storedMem b s dt i := by
    intro i hi
    cases hframe : pollFrame (pollWork b s.decoded dt) with
    | none => rw [seatPoll_quiet hframe, placed_mem]
    | some f =>
      rw [seatPoll_writes hframe, placed_mem, hs.cfg_eq]
      exact setTail_of_lt hi
  have habove : ∀ i, recvFrameOfs cfg ≤ i → (seatPoll b s dt).1.mem i = storedMem b s dt i := by
    intro i hi
    cases hframe : pollFrame (pollWork b s.decoded dt) with
    | none => rw [seatPoll_quiet hframe, placed_mem]
    | some f =>
      have hle := pollFrame_fits hdims hframe
      have hsame := (frameWrite_sameFrom (pollFrame_length hframe) s.cfg.checksum
        (tail (storedMem b s dt) (recvBufLen s.cfg))).setTail (Nat.le_refl _)
      rw [seatPoll_writes hframe, placed_mem]
      refine hsame i ?_
      rw [hs.cfg_eq]
      rw [recvFrameOfs, frameBufLen_eq hfit] at hi
      omega
  refine ⟨(seatPoll b s dt).1.mem, (seatPoll b s dt).1.sendFrame.buf,
    (seatPoll b s dt).1.recvFrame.buf, rfl, fun i hi => ?_, fun i _ => ?_, ?_⟩
  · exact (hbelow i (h i hi)).symm
  · have hge : recvBufLen cfg ≤ recvFrameOfs cfg + i :=
      (Nat.le_add_right _ _).trans (Nat.le_add_right _ i)
    rw [(seatPoll_seated b s dt).recvFrame, seatPoll_cfg, hs.cfg_eq, tail,
      habove _ (Nat.le_add_right _ _), storedMem_of_ge hs hin hge, @decoded_mem_frame b cfg s dt hs]
  · cases hframe : pollFrame (pollWork b s.decoded dt) with
    | none =>
      have hsame : (backendPoll b s.decoded dt).1.sendFrame = s.sendFrame := by
        rw [backendPoll_sendFrame, hframe]
        exact decoded_sendFrame s
      rw [hsame]
      exact (hplace.quiet hspares hframe).bytes.symm
    | some f =>
      have hle : u16 (frameLen f.1.segLen) ≤ frameLen f.1.segLen := Nat.mod_le _ _
      have hbytes := congrArg (List.take (u16 (frameLen f.1.segLen)))
        (frameWrite_agree s.cfg.checksum (pollFrame_length hframe) s.sendFrame.buf
          (tail (storedMem b s dt) (recvBufLen s.cfg)))
      rw [take_slice _ _ hle, take_slice _ _ hle] at hbytes
      have hmem : (seatPoll b s dt).1.mem = setTail (storedMem b s dt) (recvBufLen s.cfg)
          (frameWrite f.1 f.2 s.cfg.checksum (tail (storedMem b s dt) (recvBufLen s.cfg))).1 := by
        rw [seatPoll_writes hframe, placed_mem]
      rw [(seatPoll_seated b s dt).sendFrame, seatPoll_cfg, hmem, tail_setTail, backendPoll_sendFrame,
        hframe]
      dsimp only
      rw [decoded_cfg, decoded_sendFrame, frameWrite_snd]
      exact hbytes

theorem fill_sameBytes (h : m.Inside cfg) (hs : ArraysSound cfg s)
    (hfit : frameLen cfg.segmentLengthInBytes < 65536) (data : List UInt8) :
    SameBytes m (perform b s (.recvFill data)) (seatPerform b s (.recvFill data)) := by
  have hcfg : (perform b s (.recvFill data)).cfg = s.cfg := perform_cfg b s _
  have hwnd : (perform b s (.recvFill data)).recvWnd = s.recvWnd :=
    perform_recvWnd b s (by simp) (by simp) (by simp)
  have hout := @perform_sendFrame b s (.recvFill data) (by simp) (by simp) (by simp) (by simp)
  refine ⟨setTail s.mem (recvFrameOfs s.cfg) (perform b s (.recvFill data)).recvFrame.buf,
    tail (setTail s.mem (recvFrameOfs s.cfg) (perform b s (.recvFill data)).recvFrame.buf)
      (recvBufLen (perform b s (.recvFill data)).cfg),
    tail (setTail s.mem (recvFrameOfs s.cfg) (perform b s (.recvFill data)).recvFrame.buf)
      (recvFrameOfs (perform b s (.recvFill data)).cfg), rfl, fun i hi => ?_, fun i _ => ?_, ?_⟩
  · have hlt := h i hi
    rw [hwnd, setTail_of_lt (by rw [hs.cfg_eq, recvFrameOfs]; omega)]
    rfl
  · rw [hcfg, tail_setTail]
  · have hkept := @FrameInPlace.fill b s (hs.place hfit) data
    rw [hout]
    exact hkept.bytes.symm

/-- A call on the memory leaves what it leaves on the arrays. -/
theorem ArraysSound.sameBytes (hs : ArraysSound cfg s)
    (hfit : frameLen cfg.segmentLengthInBytes < 65536) (h : m.Inside cfg) {c : Call}
    (hin : StaysInside s c) :
    SameBytes m s (s.readied c) ∧ SameBytes m (perform b (s.readied c) c) (seatPerform b s c) := by
  cases c with
  | poll dt => exact ⟨decoded_sameBytes h hs, poll_sameBytes h hs hfit hin⟩
  | recvFill data => exact ⟨.refl _ _, fill_sameBytes h hs hfit data⟩
  | send | flush | recv | sendPtrGet | sendPtrRelease | connect | reset =>
    exact ⟨.refl _ _, .refl _ _⟩

theorem readsMarked_readied {c : Call} (h : ReadsMarked ⟨s, m⟩ c) :
    ReadsMarked ⟨s.readied c, m⟩ c := by
  cases c with
  | poll dt =>
    have htimers : pollTimers s.decoded dt = pollTimers s dt := by
      unfold pollTimers pollRh pollRead
      rw [decoded_sendWnd, decoded_recvFrame, decoded_cfg]
    simp only [ReadsMarked, Arq.readied, htimers, decoded_recvFrame, decoded_sendWndPtr,
      sendFrameFree, decoded_sendFrame] at h ⊢
    exact h
  | send | flush | recv | sendPtrGet | sendPtrRelease | recvFill | connect | reset => exact h

theorem marksAfter_readied (s : Arq) (m : Marks) (c : Call) :
    marksAfter (s.readied c) m c = marksAfter s m c := by
  cases c with
  | poll dt =>
    simp only [marksAfter, Arq.readied, decoded_recvFrame, decoded_cfg, recvPollStored_decoded]
  | send | flush | recv | sendPtrGet | sendPtrRelease | recvFill | connect | reset => rfl

/-- Related instances stay inside their windows together. -/
theorem Twin.staysInside (h : Twin m s s') {c : Call} (hclean : ReadsMarked ⟨s, m⟩ c)
    (hin : StaysInside s c) : StaysInside s' c := by
  cases c with
  | poll dt =>
    simp only [StaysInside] at hin ⊢
    rwa [h.cfg, recvPollStored_twin h.recv h.frame hclean.1]
  | recv n =>
    simp only [StaysInside] at hin ⊢
    rwa [h.cfg, h.needPoll, recvReads_twin h.recv]
  | send | flush | sendPtrGet | sendPtrRelease | recvFill | connect | reset => trivial

/-- Two instances, each on a memory of its own. -/
theorem Twin.seatStep (h : Twin m s s') (hs : ArraysSound cfg s) (hs' : ArraysSound cfg s')
    (hfit : frameLen cfg.segmentLengthInBytes < 65536) (hm : m.Inside cfg) {c : Call}
    (hclean : ReadsMarked ⟨s, m⟩ c) (hin : StaysInside s c) :
    seatResult b s c = seatResult b s' c ∧
      Twin (marksAfter s m c) (seatPerform b s c) (seatPerform b s' c) := by
  have hafter := hm.after hs hin
  obtain ⟨hbefore, -⟩ := @ArraysSound.sameBytes b cfg m s hs hfit hm c hin
  obtain ⟨hbefore', -⟩ := @ArraysSound.sameBytes b cfg m s' hs' hfit hm c (h.staysInside hclean hin)
  obtain ⟨-, hdone⟩ := @ArraysSound.sameBytes b cfg _ s hs hfit hafter c hin
  obtain ⟨-, hdone'⟩ := @ArraysSound.sameBytes b cfg _ s' hs' hfit hafter c (h.staysInside hclean hin)
  obtain ⟨hresult, hstep⟩ :=
    @Twin.step b m _ _ ((h.left hbefore).right hbefore') c (readsMarked_readied hclean)
  rw [marksAfter_readied] at hstep
  rw [seatResult_eq, seatResult_eq]
  exact ⟨hresult, (hstep.left hdone).right hdone'⟩

/-- An instance on one memory and an instance on three arrays. -/
theorem Twin.arrayStep (h : Twin m s a) (hs : ArraysSound cfg s)
    (hfit : frameLen cfg.segmentLengthInBytes < 65536) (hm : m.Inside cfg) {c : Call}
    (hclean : ReadsMarked ⟨s, m⟩ c) (hin : StaysInside s c) :
    seatResult b s c = callResult b a c ∧
      Twin (marksAfter s m c) (seatPerform b s c) (perform b a c) := by
  have hafter := hm.after hs hin
  obtain ⟨hbefore, -⟩ := @ArraysSound.sameBytes b cfg m s hs hfit hm c hin
  obtain ⟨-, hdone⟩ := @ArraysSound.sameBytes b cfg _ s hs hfit hafter c hin
  obtain ⟨hresult, hstep⟩ := @Twin.step b m _ _ (h.left hbefore) c (readsMarked_readied hclean)
  rw [marksAfter_readied] at hstep
  rw [seatResult_eq]
  exact ⟨hresult, hstep.left hdone⟩

end

/-! ## Every run -/

/-- The whole buffer of the receive window is marked. -/
def windowMarks (cfg : Cfg) : Marks where
  sendBuf := fun _ => true
  recvBuf := fun i => decide (i < recvBufLen cfg)
  frameBuf := fun _ => true

section

variable {b : Build} {cfg : Cfg} {seat arq₀ s a : Arq}

theorem windowMarks_inside (cfg : Cfg) : (windowMarks cfg).Inside cfg := fun _ h => of_decide_eq_true h

theorem windowMarks_after (hs : ArraysSound cfg s) {c : Call} (hin : StaysInside s c) :
    marksAfter s (windowMarks cfg) c = windowMarks cfg := by
  have hall : ∀ dst n, paint (fun _ => true) dst n = fun _ => true :=
    fun _ _ => paint_marked fun _ _ => rfl
  cases c with
  | send data => simp only [marksAfter, windowMarks, sendMarks, hall, ite_self]
  | recvFill data => simp only [marksAfter, windowMarks, hall]
  | poll dt =>
    have hmarked : Marked (windowMarks cfg).recvBuf
        (recvPollStored s.recvWnd s.recvFrame s.cfg.checksum).1
        (recvPollStored s.recvWnd s.recvFrame s.cfg.checksum).2 := by
      intro j hj
      refine decide_eq_true ?_
      rcases hin with hnone | hle
      · omega
      · have hend := hle.trans_eq (congrArg recvBufLen hs.cfg_eq)
        omega
    simp only [marksAfter]
    rw [paint_marked hmarked]
  | flush | recv | sendPtrGet | sendPtrRelease | connect | reset => rfl

theorem windowMarks_reads (hs : ArraysSound cfg s) {c : Call} (hin : StaysInside s c) :
    ReadsMarked ⟨s, windowMarks cfg⟩ c := by
  cases c with
  | poll dt => exact ⟨fun _ _ _ => rfl, fun _ _ _ => rfl⟩
  | recv n =>
    intro hneed r hr j hj
    refine decide_eq_true ?_
    rcases hin hneed r hr with hnone | hle
    · omega
    · have hend := hle.trans_eq (congrArg recvBufLen hs.cfg_eq)
      omega
  | send | flush | sendPtrGet | sendPtrRelease | recvFill | connect | reset => trivial

theorem Twin.refl (m : Marks) (hsend : 0 < a.sendWnd.w.cap) (hrecv : 0 < a.recvWnd.w.cap)
    (hframe : Marked m.frameBuf 0 a.recvFrame.len) : Twin m a a where
  cfg := rfl
  needPoll := rfl
  ptr := rfl
  send := ⟨_, _, _, rfl, ⟨hsend, fun _ _ => rfl, fun _ _ => rfl⟩, fun _ _ => rfl⟩
  recv := ⟨_, _, _, rfl, ⟨hrecv, fun _ _ => rfl, fun _ _ => rfl⟩, fun _ _ => rfl⟩
  frame := ⟨_, rfl, fun _ _ => rfl, hframe⟩
  outLen := rfl
  outState := rfl
  outBytes := rfl
  conn := .refl _

end

/-- Data frames that arrive whole and in parts, while bytes are sent and read. -/
def insideCalls : List Call :=
  [.send [1, 2, 3], .poll 0, .sendPtrGet,
    .recvFill (encodeFrame (smallCfg 2 2 2).checksum { frameHdrInit with
      seg := true, segLen := 2, seqNum := 1, msgLen := 1, segId := 0 } [8, 9]), .poll 0,
    .recvFill (encodeFrame (smallCfg 2 2 2).checksum { frameHdrInit with
      seg := true, segLen := 1, seqNum := 0, msgLen := 1, segId := 0 } [7]), .poll 1, .recv 2,
    .sendPtrRelease, .poll 4, .recv 5, .sendPtrGet, .reset]

end NanoArq
