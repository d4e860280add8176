import NanoArq.Codec.Frame
import NanoArq.Lib.Runs
import NanoArq.Sender.Pointer

/-!
# Runs of a sender

`SendHist` is an instance together with what happened to it: how many messages have left the
send window, the bytes accepted into the messages that are still there, and the segments
transmitted so far. `sendHistStep` performs a call and records it, reading only what the call
returns and the frames it writes.

`sendHistStep_layout` is the invariant of every run: the send window holds exactly the recorded
bytes.
-/

namespace NanoArq

open Lib

/-! ## Initialisation -/

theorem foldl_update_const {α : Type*} (n : Nat) (v : α) (f : Nat → α) (j : Nat) :
    (List.range n).foldl (fun f i => Function.update f i v) f j = if j < n then v else f j := by
  induction n with
  | zero => simp
  | succ n ih =>
    rw [List.range_succ, List.foldl_append, List.foldl_cons, List.foldl_nil]
    by_cases hj : j = n
    · rw [hj, Function.update_self, if_pos (Nat.lt_succ_self n)]
    · rw [Function.update_of_ne hj, ih]
      simp only [show j < n + 1 ↔ j < n by omega]

theorem wndRst_msg (w : Wnd) {j : Nat} (hj : j < w.cap) :
    (wndRst w).msg j = msgEmpty w.fullAckVec := by
  have := foldl_update_const w.cap (msgEmpty w.fullAckVec) w.msg j
  rwa [if_pos hj] at this

theorem wndRst_layout {d : Dims} {w : Wnd} (hshape : WndShape d w) :
    SendLayout d (wndRst w) 0 [] := by
  refine ⟨⟨hshape.cap, hshape.msgLen, hshape.segLen, hshape.full⟩, rfl, ?_, Nat.zero_le _, ?_, ?_,
    ?_⟩
  · change 0 = segCount d.msgLen 0
    exact (segCount_eq d.msgLen_pos fun i => by simp).symm
  · intro i hi
    exact absurd hi (Nat.not_lt_zero i)
  · intro x hx
    exact absurd hx (Nat.not_lt_zero x)
  · intro i _ hi
    rw [Nat.zero_add, Nat.mod_eq_of_lt hi, wndRst_msg w (by rwa [hshape.cap]), hshape.full]

theorem Dims.init_shape (d : Dims) (w : Wnd) : WndShape d (wndInit w d.cap d.msgLen d.segLen) := by
  have hcap := d.cap_le
  have hfits := d.fits
  have hseg : d.segLen ≤ d.segs * d.segLen := Nat.le_mul_of_pos_left _ d.segs_pos
  refine ⟨?_, ?_, ?_, ?_⟩
  · exact u16_of_lt (by omega)
  · exact u16_of_lt hfits
  · exact u16_of_lt (by omega)
  · change ackVecOf (d.segs * d.segLen / d.segLen) = d.full
    rw [Nat.mul_div_cancel _ d.segLen_pos]
    exact ackVecOf_eq d.segs_le

/-- The dimensions of a window as the configuration gives them: `cap` messages. -/
structure Cfg.Has (cfg : Cfg) (d : Dims) (cap : Nat) : Prop where
  cap : cap = d.cap
  segs : cfg.messageLengthInSegments = d.segs
  segLen : cfg.segmentLengthInBytes = d.segLen

theorem wndInit_shape {cfg : Cfg} {d : Dims} {cap : Nat} (h : cfg.Has d cap) (w : Wnd) :
    WndShape d (wndInit w cap (cfg.messageLengthInSegments * cfg.segmentLengthInBytes)
      cfg.segmentLengthInBytes) := by
  rw [h.cap, h.segs, h.segLen]
  exact d.init_shape w

theorem arqInit_ok {b : Build} {cfg : Cfg} {seat arq : Arq} (hinit : arqInit b cfg seat = .ok arq) :
    arq = rstArq b (initArq { seat with cfg := cfg }) := by
  unfold arqInit at hinit
  split at hinit
  · exact (Except.ok.inj hinit).symm
  · cases hinit

theorem arqInit_sendLayout {b : Build} {cfg : Cfg} {seat arq : Arq} {d : Dims}
    (hinit : arqInit b cfg seat = .ok arq) (hd : cfg.Has d cfg.sendWindowSizeInMessages) :
    SendLayout d arq.sendWnd.w 0 [] := by
  rw [arqInit_ok hinit]
  exact wndRst_layout (wndInit_shape hd _)

/-- A send window of a power of two of messages, at most `2048`, with at most twelve segments each,
as long as `arq__frame_len` asserts. -/
structure Cfg.SendRegular (cfg : Cfg) : Prop where
  cap : ∃ k, k ≤ 11 ∧ cfg.sendWindowSizeInMessages = 2 ^ k
  segs : cfg.messageLengthInSegments ≤ 12
  segLen : cfg.segmentLengthInBytes ≤ 256

theorem checkCfg_pos {cfg : Cfg} (h : checkCfg cfg = .okCompleted) :
    0 < cfg.messageLengthInSegments ∧ 0 < cfg.segmentLengthInBytes ∧
      0 < cfg.sendWindowSizeInMessages ∧ 0 < cfg.recvWindowSizeInMessages := by
  unfold checkCfg at h
  split_ifs at h with h₁ h₂ h₃ h₄
  omega

theorem arqInit_check {b : Build} {cfg : Cfg} {seat arq : Arq}
    (hinit : arqInit b cfg seat = .ok arq) : checkCfg cfg = .okCompleted := by
  unfold arqInit at hinit
  split at hinit
  · rename_i h
    exact h
  · cases hinit

theorem pow_window {cap : Nat} (h : ∃ k, k ≤ 11 ∧ cap = 2 ^ k) : cap ≤ 2048 ∧ cap ∣ seqSpace := by
  obtain ⟨k, hk, rfl⟩ := h
  constructor
  · exact Nat.pow_le_pow_right (by omega) hk
  · exact Nat.pow_dvd_pow 2 (show k ≤ 12 by omega)

theorem Cfg.SendRegular.dims {b : Build} {cfg : Cfg} {seat arq : Arq} (h : cfg.SendRegular)
    (hinit : arqInit b cfg seat = .ok arq) : ∃ d, cfg.Has d cfg.sendWindowSizeInMessages := by
  obtain ⟨hcap, hsegs, hsegLen⟩ := h
  obtain ⟨hle, hdvd⟩ := pow_window hcap
  obtain ⟨hsegsPos, hsegLenPos, hcapPos, -⟩ := checkCfg_pos (arqInit_check hinit)
  have hfits := Nat.mul_le_mul hsegs hsegLen
  exact ⟨⟨_, _, _, hcapPos, by omega, hdvd, hsegsPos, hsegs, hsegLenPos, by omega⟩, rfl, rfl, rfl⟩

/-! ## Histories -/

/-- A segment that was transmitted, under the number of its message. -/
structure Sent where
  msg : Nat
  seg : Nat
  payload : List UInt8
deriving DecidableEq

structure SendHist where
  arq : Arq
  base : Nat
  content : List UInt8
  sent : List Sent

def SendHist.start (arq : Arq) : SendHist := { arq := arq, base := 0, content := [], sent := [] }

/-- The index in the window of the message with sequence number `seq`. -/
def wndIndex (w : Wnd) (seq : Nat) : Nat := (seq + seqSpace - w.seq) % seqSpace

/-- The sequence number designates a message in the window. -/
def inWindow (w : Wnd) (seq : Nat) : Prop := wndIndex w seq < w.size

instance (w : Wnd) (seq : Nat) : Decidable (inWindow w seq) := inferInstanceAs (Decidable (_ < _))

/-- The bytes accepted into the message with this sequence number. -/
def messageOf (w : Wnd) (content : List UInt8) (seq : Nat) : List UInt8 :=
  (content.drop (wndIndex w seq * w.msgLen)).take w.msgLen

section

variable {d : Dims} {w : Wnd} {base : Nat} {content : List UInt8}

theorem seq_of_wndIndex (hbase : w.seq < seqSpace) (seq : Nat) :
    (w.seq + wndIndex w seq) % seqSpace = seq % seqSpace := by
  unfold wndIndex
  rw [Nat.add_mod_mod, show w.seq + (seq + seqSpace - w.seq) = seq + seqSpace by omega,
    Nat.add_mod_right]

/-- The slot of a number is the one of its message. -/
theorem wndIndex_slot (hbase : w.seq < seqSpace) (hdvd : w.cap ∣ seqSpace) (seq : Nat) :
    (w.seq + wndIndex w seq) % w.cap = seq % w.cap := by
  rw [← Nat.mod_mod_of_dvd (w.seq + wndIndex w seq) hdvd, seq_of_wndIndex hbase,
    Nat.mod_mod_of_dvd _ hdvd]

/-- The slot of the message that a sequence number designates. -/
theorem SendLayout.slot_of_seq (hl : SendLayout d w base content) (seq : Nat) :
    seq % w.cap = (base + wndIndex w seq) % d.cap := by
  have hseq : w.seq < seqSpace := by
    rw [hl.seq]
    exact Nat.mod_lt _ (by decide)
  have hdvd : w.cap ∣ seqSpace := by
    rw [hl.shape.cap]
    exact d.cap_dvd
  rw [← wndIndex_slot hseq hdvd seq]
  exact hl.slot _

theorem SendLayout.index_of_seq (hl : SendLayout d w base content) {i : Nat} (hi : i < seqSpace) :
    wndIndex w ((base + i) % seqSpace) = i := by
  unfold wndIndex
  rw [hl.seq]
  unfold seqSpace at hi ⊢
  omega

theorem SendLayout.message_length (hl : SendLayout d w base content) {seq : Nat}
    (hidx : wndIndex w seq < w.size) :
    (messageOf w content seq).length = (w.msg (seq % w.cap)).len := by
  rw [hl.slot_of_seq seq, hl.len _ hidx, messageOf, List.length_take, List.length_drop,
    hl.shape.msgLen]

/-- The bytes that `arq__wnd_seg` finds for a segment of a message in the window. -/
theorem SendLayout.segment (hl : SendLayout d w base content) {seq seg : Nat}
    (hidx : wndIndex w seq < w.size) (hseg : seg < segCount d.segLen (w.msg (seq % w.cap)).len) :
    slice w.buf (wndSeg w seq seg).1 (wndSeg w seq seg).2 =
      ((messageOf w content seq).drop (seg * d.segLen)).take d.segLen := by
  have hslot := hl.slot_of_seq seq
  obtain ⟨-, hle⟩ := hl.len_bounds hidx
  have hlen := hl.len _ hidx
  have hstart : seg * d.segLen < (w.msg (seq % w.cap)).len := (lt_segCount d.segLen_pos).mp hseg
  rw [hslot] at hstart
  have hpos := hl.lt_size.mp hidx
  simp only [wndSeg, hl.shape.msgLen, hl.shape.segLen]
  rw [hslot, Nat.mul_comm d.segLen seg, sub32_of_le (by omega),
    hl.slice_eq (by omega) (by omega), messageOf, hl.shape.msgLen, List.drop_take, List.take_take,
    List.drop_drop]
  apply List.ext_getElem
  · simp only [List.length_take, List.length_drop]
    omega
  · intro y _ _
    simp only [List.getElem_take, List.getElem_drop]

end

/-- The segment that a poll transmits, when message `base` is the first of its window. -/
def transmitted (p : Polled) (base : Nat) : List Sent :=
  match pollFrame p with
  | some (hd, payload) =>
    if hd.seg ∧ inWindow p.sendWnd.w hd.seqNum then
      [{ msg := base + wndIndex p.sendWnd.w hd.seqNum, seg := hd.segId, payload := payload }]
    else []
  | none => []

theorem mem_transmitted {p : Polled} {base : Nat} {s : Sent} :
    s ∈ transmitted p base ↔ ∃ hd payload, pollFrame p = some (hd, payload) ∧ hd.seg = true ∧
      inWindow p.sendWnd.w hd.seqNum ∧
      s = { msg := base + wndIndex p.sendWnd.w hd.seqNum, seg := hd.segId, payload := payload } := by
  unfold transmitted
  cases pollFrame p with
  | none => simp
  | some f =>
    obtain ⟨hd, payload⟩ := f
    dsimp only
    split
    · rename_i h
      simp [h]
    · rename_i h
      simp only [List.not_mem_nil, false_iff, not_exists]
      rintro _ _ ⟨heq, hseg, hin, -⟩
      cases heq
      exact h ⟨hseg, hin⟩

def sendHistStep (b : Build) (h : SendHist) (c : Call) : SendHist :=
  let arq := perform b h.arq c
  match c with
  | .send data => { h with arq := arq, content := h.content ++ data.take (arqSend h.arq data).2.2 }
  | .poll dt =>
    let base := h.base + (h.arq.sendWnd.w.size - arq.sendWnd.w.size)
    { arq := arq
      base := base
      content := h.content.drop ((h.arq.sendWnd.w.size - arq.sendWnd.w.size) * arq.sendWnd.w.msgLen)
      sent := h.sent ++ transmitted (pollWork b h.arq dt) base }
  | .reset => .start arq
  | _ => { h with arq := arq }

@[simp] theorem sendHistStep_arq (b : Build) (h : SendHist) (c : Call) :
    (sendHistStep b h c).arq = perform b h.arq c := by
  cases c <;> rfl

@[simp] theorem perform_cfg (b : Build) (arq : Arq) (c : Call) : (perform b arq c).cfg = arq.cfg := by
  cases c <;> simp only [perform]
  case send => unfold arqSend; split <;> rfl
  case flush => rfl
  case recv => unfold arqRecv; split <;> rfl
  case poll => rfl
  case sendPtrGet => unfold backendSendPtrGet; split <;> rfl
  case sendPtrRelease => unfold backendSendPtrRelease; split <;> rfl
  case recvFill => simp only [backendRecvFill]; split <;> rfl
  case connect => unfold arqConnect; split_ifs <;> rfl
  case reset => rfl

/-- The calls that neither send nor acknowledge leave the send side alone. -/
theorem perform_sendWnd (b : Build) (arq : Arq) {c : Call} (hsend : ∀ data, c ≠ .send data)
    (hflush : c ≠ .flush) (hpoll : ∀ dt, c ≠ .poll dt) (hreset : c ≠ .reset) :
    (perform b arq c).sendWnd = arq.sendWnd ∧ (perform b arq c).sendWndPtr = arq.sendWndPtr := by
  cases c <;> simp only [perform]
  case send data => exact absurd rfl (hsend data)
  case flush => exact absurd rfl hflush
  case recv => unfold arqRecv; split <;> exact ⟨rfl, rfl⟩
  case poll dt => exact absurd rfl (hpoll dt)
  case sendPtrGet => unfold backendSendPtrGet; split <;> exact ⟨rfl, rfl⟩
  case sendPtrRelease => unfold backendSendPtrRelease; split <;> exact ⟨rfl, rfl⟩
  case recvFill => simp only [backendRecvFill]; split <;> exact ⟨rfl, rfl⟩
  case connect => unfold arqConnect; split_ifs <;> exact ⟨rfl, rfl⟩
  case reset => exact absurd rfl hreset

section

variable {d : Dims} {h : SendHist}

theorem poll_retired (b : Build) (hl : SendLayout d h.arq.sendWnd.w h.base h.content) (dt : Nat) :
    h.arq.sendWnd.w.size - (backendPoll b h.arq dt).1.sendWnd.w.size = pollRetired h.arq ∧
      pollRetired h.arq ≤ h.arq.sendWnd.w.size := by
  have hw : (backendPoll b h.arq dt).1.sendWnd.w = (pollTimers h.arq dt).w :=
    pollWork_sendWnd_w b h.arq dt
  obtain ⟨hsize, -⟩ := pollTimers_layout hl dt
  have hle := (pollAcked_msgs hl).1
  rw [hw, hsize]
  exact ⟨by omega, hle⟩

theorem sendHistStep_poll (b : Build) (hl : SendLayout d h.arq.sendWnd.w h.base h.content) (dt : Nat) :
    sendHistStep b h (.poll dt) =
      { arq := perform b h.arq (.poll dt)
        base := h.base + pollRetired h.arq
        content := h.content.drop (pollRetired h.arq * d.msgLen)
        sent := h.sent ++ transmitted (pollWork b h.arq dt) (h.base + pollRetired h.arq) } := by
  have hw : (backendPoll b h.arq dt).1.sendWnd.w = (pollTimers h.arq dt).w :=
    pollWork_sendWnd_w b h.arq dt
  have hret := (poll_retired b hl dt).1
  have hmsgLen := (pollTimers_layout hl dt).2.shape.msgLen
  simp only [sendHistStep, perform]
  rw [hret, hw, hmsgLen]

/-- Every call keeps the send window to the recorded bytes. -/
theorem sendHistStep_layout (b : Build) (hl : SendLayout d h.arq.sendWnd.w h.base h.content)
    (c : Call) :
    SendLayout d (sendHistStep b h c).arq.sendWnd.w (sendHistStep b h c).base
      (sendHistStep b h c).content := by
  have hother : (∀ data, c ≠ .send data) → c ≠ .flush → (∀ dt, c ≠ .poll dt) → c ≠ .reset →
      SendLayout d (perform b h.arq c).sendWnd.w h.base h.content := by
    intro hsend hflush hpoll hreset
    rw [(perform_sendWnd b h.arq hsend hflush hpoll hreset).1]
    exact hl
  cases c with
  | send data =>
    simp only [sendHistStep, perform, arqSend]
    split
    · simpa using hl
    · exact sendWndSend_layout hl data _
  | flush => exact sendWndFlush_layout hl
  | poll dt =>
    have hw : (backendPoll b h.arq dt).1.sendWnd.w = (pollTimers h.arq dt).w :=
      pollWork_sendWnd_w b h.arq dt
    obtain ⟨hret, -⟩ := poll_retired b hl dt
    obtain ⟨-, hlayout⟩ := pollTimers_layout hl dt
    simp only [sendHistStep, perform]
    rw [hret, hw, hlayout.shape.msgLen]
    exact hlayout
  | reset =>
    exact wndRst_layout hl.shape
  | recv | sendPtrGet | sendPtrRelease | recvFill | connect =>
    exact hother (by simp) (by simp) (by simp) (by simp)

end

/-- The ACK that the next poll will handle reports only segments that were transmitted. An ACK
vector has twelve bits. -/
def HonestAck (h : SendHist) : Prop :=
  pollAcks h.arq → ∀ j, j < 12 → (pollRh h.arq).curAckVec.testBit j = true →
    ∃ s ∈ h.sent, s.msg = h.base + ((pollRh h.arq).ackNum - h.arq.sendWnd.w.seq) ∧ s.seg = j

instance (h : SendHist) : Decidable (HonestAck h) :=
  inferInstanceAs (Decidable (_ → ∀ j, j < 12 → _ → _))

def HonestAcks (h : SendHist) : Call → Prop
  | .poll _ => HonestAck h
  | _ => True

instance (h : SendHist) : (c : Call) → Decidable (HonestAcks h c)
  | .poll _ => inferInstanceAs (Decidable (HonestAck h))
  | .send _ | .flush | .recv _ | .sendPtrGet | .sendPtrRelease | .recvFill _ | .connect | .reset =>
    inferInstanceAs (Decidable True)

/-- The frame of an ACK, for examples. -/
def ackBytes (cfg : Cfg) (ackNum curAckVec : Nat) : List UInt8 :=
  encodeFrame cfg.checksum
    { frameHdrInit with ack := true, ackNum := ackNum, curAckVec := curAckVec } []

/-- Three messages of two segments; the first segment is transmitted and acknowledged. -/
def sampleCalls : List Call :=
  [.send [7, 8, 9, 10, 11], .flush, .poll 0, .sendPtrGet, .sendPtrRelease,
    .recvFill (ackBytes (smallCfg 1 2 4) 0 1)]

end NanoArq
