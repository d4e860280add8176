import NanoArq.Buffers
import NanoArq.Link.Delivery
import NanoArq.Receiver.Cuts
import NanoArq.Reset.Twin
import NanoArq.Sender.Cuts
import NanoArq.Sender.Retransmit

/-!
# How the streams are cut

The application hands its bytes to `arq_send` in pieces of its choice, the driver hands what it
receives to `arq_backend_recv_fill`, and `arq_recv` is called for lengths of the application's choice.
Between two other calls it makes no difference where these streams are cut: the counts and the bytes
add up, and all later calls return the same (`SameFuture`).

* `Twin.sameFuture`: instances that differ in what no state of theirs reads have the same future.
* `TimerStale`: so have instances that differ in the time of a tinygram timer that is off.
-/

namespace NanoArq

open Lib

/-! ## The same future -/

/-- From now on the two instances return the same, whatever is called. -/
def SameFuture (b : Build) (a a' : Arq) : Prop :=
  ∀ later, trace (perform b) (callResult b) a later = trace (perform b) (callResult b) a' later

section

variable {b : Build} {a a' a'' : Arq}

theorem SameFuture.refl (b : Build) (a : Arq) : SameFuture b a a := fun _ => rfl

theorem SameFuture.trans (h : SameFuture b a a') (h' : SameFuture b a' a'') : SameFuture b a a'' :=
  fun later => (h later).trans (h' later)

/-- A relation that every call keeps, with the same result, is a reason for it. -/
theorem SameFuture.of_relation {R : Arq → Arq → Prop}
    (hstep : ∀ a a' c, R a a' → callResult b a c = callResult b a' c ∧ R (perform b a c) (perform b a' c))
    (h : R a a') : SameFuture b a a' := by
  intro later
  induction later generalizing a a' with
  | nil => rfl
  | cons c later ih =>
    obtain ⟨hresult, hnext⟩ := hstep a a' c h
    rw [trace, trace, hresult, ih hnext]

/-- Every cell is marked. -/
def allMarks : Marks where
  sendBuf := fun _ => true
  recvBuf := fun _ => true
  frameBuf := fun _ => true

theorem paint_all (dst n : Nat) : paint (fun _ => true) dst n = fun _ => true :=
  paint_marked fun _ _ => rfl

theorem marksAfter_all (arq : Arq) (c : Call) : marksAfter arq allMarks c = allMarks := by
  cases c with
  | send data =>
    simp only [marksAfter, allMarks, sendMarks, paint_all, ite_self]
  | poll | recvFill => simp only [marksAfter, allMarks, paint_all]
  | flush | recv | sendPtrGet | sendPtrRelease | connect | reset => rfl

theorem readsMarked_all (arq : Arq) (c : Call) : ReadsMarked ⟨arq, allMarks⟩ c := by
  cases c with
  | poll dt => exact ⟨fun _ _ _ => rfl, fun _ _ _ => rfl⟩
  | recv recvMax => exact fun _ _ _ _ _ => rfl
  | send | flush | sendPtrGet | sendPtrRelease | recvFill | connect | reset => trivial

/-- Instances that differ only in what no state of theirs reads. -/
theorem Twin.sameFuture (h : Twin allMarks a a') : SameFuture b a a' := by
  refine .of_relation ?_ h
  intro a a' c h
  obtain ⟨hresult, hnext⟩ := @Twin.step b _ _ _ h c (readsMarked_all a c)
  rw [marksAfter_all] at hnext
  exact ⟨hresult, hnext⟩

theorem WndAgree.refl {w : Wnd} (hcap : 0 < w.cap) : WndAgree (fun _ => true) w w.msg w.buf :=
  ⟨hcap, fun _ _ => rfl, fun _ _ => rfl⟩

/-- The windows of an instance are replaced by others of the same contents. -/
theorem Twin.of_windows {arq : Arq} {sw : SendWnd} {rw : RecvWnd}
    (hsend : SendTwin (fun _ => true) arq.sendWnd sw) (hrecv : RecvTwin (fun _ => true) arq.recvWnd rw) :
    Twin allMarks arq { arq with sendWnd := sw, recvWnd := rw } where
  cfg := rfl
  needPoll := rfl
  ptr := rfl
  send := hsend
  recv := hrecv
  frame := ⟨arq.recvFrame.buf, rfl, fun _ _ => rfl, fun _ _ => rfl⟩
  outLen := rfl
  outState := rfl
  outBytes := rfl
  conn := .refl arq.conn

end

/-! ## A timer that is off -/

section

variable {sw : SendWnd} {t dt : Nat}

theorem sendWndAck_tiny (sw : SendWnd) (t seq vec : Nat) :
    sendWndAck { sw with tiny := t } seq vec = { sendWndAck sw seq vec with tiny := t } := by
  unfold sendWndAck
  dsimp only
  split <;> rfl

theorem sendWndFlush_tiny (sw : SendWnd) (t : Nat) :
    sendWndFlush { sw with tiny := t } = { sendWndFlush sw with tiny := t } := by
  unfold sendWndFlush
  dsimp only
  split
  · rfl
  · split <;> rfl

theorem sendPollTimers_stale (hoff : sw.tinyOn = false) (t : Nat) (rh : FrameHdr) (dt : Nat) :
    sendPollTimers { sw with tiny := t } rh dt = { sendPollTimers sw rh dt with tiny := t } ∧
      (sendPollTimers sw rh dt).tinyOn = false := by
  have hacked : ∃ acked : SendWnd, acked.tinyOn = false ∧
      (if rh.ack then sendWndAck sw rh.ackNum rh.curAckVec else sw) = acked ∧
      (if rh.ack then sendWndAck { sw with tiny := t } rh.ackNum rh.curAckVec else { sw with tiny := t }) =
        { acked with tiny := t } := by
    split
    · exact ⟨_, (sendWndAck_timers sw _ _).2.1.trans hoff, rfl, sendWndAck_tiny sw t _ _⟩
    · exact ⟨sw, hoff, rfl, rfl⟩
  obtain ⟨acked, hoff', heq, heq'⟩ := hacked
  unfold sendPollTimers
  rw [heq, heq']
  unfold sendWndStep
  simp only [hoff', Bool.false_eq_true, false_and, if_false, and_self]

theorem sendPoll_stale (hoff : sw.tinyOn = false) (t : Nat) (sp : SendWndPtr) (sh : Option FrameHdr)
    (rh : FrameHdr) (dt rtx : Nat) :
    sendPoll { sw with tiny := t } sp sh rh dt rtx =
        ({ (sendPoll sw sp sh rh dt rtx).1 with tiny := t }, (sendPoll sw sp sh rh dt rtx).2) ∧
      (sendPoll sw sp sh rh dt rtx).1.tinyOn = false := by
  obtain ⟨htimers, hoff'⟩ := sendPollTimers_stale hoff t rh dt
  unfold sendPoll
  rw [htimers]
  cases sh with
  | none => exact ⟨rfl, hoff'⟩
  | some sh =>
    dsimp only
    have hnext : sendWndPtrNext sp { sendPollTimers sw rh dt with tiny := t } =
        sendWndPtrNext sp (sendPollTimers sw rh dt) := rfl
    rw [hnext]
    split
    · exact ⟨rfl, hoff'⟩
    · exact ⟨rfl, hoff'⟩

theorem sendFinish_stale (sw : SendWnd) (t idx size₀ rem size tiny : Nat) :
    ∃ t', sendFinish { sw with tiny := t } idx size₀ rem size tiny =
        { sendFinish sw idx size₀ rem size tiny with tiny := t' } ∧
      (0 < rem → size₀ < size → t' = (sendFinish sw idx size₀ rem size tiny).tiny) := by
  unfold sendFinish
  dsimp only
  split
  · exact ⟨tiny, rfl, fun _ _ => rfl⟩
  · rename_i hnot
    refine ⟨t, rfl, fun hrem hsize => absurd ⟨decide_eq_true hrem, hsize⟩ hnot⟩

theorem sendFinish_size (sw : SendWnd) (idx size₀ rem size tiny : Nat) :
    (sendFinish sw idx size₀ rem size tiny).w.size = size ∧
      (sendFinish sw idx size₀ rem size tiny).tinyOn = decide (rem > 0) := by
  unfold sendFinish
  dsimp only
  split <;> exact ⟨rfl, rfl⟩

/-- A call that starts a message and leaves it incomplete sets the timer. -/
theorem sendWndSend_stale (sw : SendWnd) (t : Nat) (data : List UInt8) (tiny : Nat) :
    ∃ t', sendWndSend { sw with tiny := t } data tiny =
        ({ (sendWndSend sw data tiny).1 with tiny := t' }, (sendWndSend sw data tiny).2) ∧
      ((sendWndSend sw data tiny).1.tinyOn = true → sw.w.size < (sendWndSend sw data tiny).1.w.size →
        t' = (sendWndSend sw data tiny).1.tiny) := by
  by_cases hdata : data.length = 0
  · rw [sendWndSend_nil _ hdata, sendWndSend_nil _ hdata]
    exact ⟨t, rfl, fun _ hlt => absurd hlt (lt_irrefl _)⟩
  · have hfill : ∀ (sw : SendWnd) (seq n : Nat),
        sendWndFill { sw with tiny := t } seq n = { sendWndFill sw seq n with tiny := t } := by
      intro sw seq n
      refine foldl_keeps (R := fun x y : SendWnd => y = { x with tiny := t }) ?_ (List.range n) rfl
      rintro x y i rfl
      rfl
    have hplain := sendWndSend_steps sw hdata tiny rfl rfl
    have hstale := sendWndSend_steps { sw with tiny := t } hdata tiny rfl rfl
    dsimp only at hstale
    rw [hfill { sw with w := { sw.w with buf := sendCopied sw.w sw.w.buf data } }] at hstale
    obtain ⟨filled, hfilled⟩ : ∃ x, x = sendWndFill
        { sw with w := { sw.w with buf := sendCopied sw.w sw.w.buf data } } (sw.w.seq + subSat sw.w.size 1)
        (((sw.w.msg (sendFirst sw.w)).len + sendFit sw.w data.length) / sw.w.msgLen) := ⟨_, rfl⟩
    rw [← hfilled] at hplain hstale
    obtain ⟨t', heq, htimer⟩ := sendFinish_stale filled t _ _ _ _ _
    rw [heq] at hstale
    rw [hplain, hstale]
    refine ⟨t', rfl, ?_⟩
    dsimp only
    rw [(sendFinish_size ..).1, (sendFinish_size ..).2]
    exact fun hon => htimer (of_decide_eq_true hon)

end

/-- The instances differ in the time of a tinygram timer that is off, and the window ends at the end of
a message, so that the next incomplete one sets it. -/
structure TimerStale (d : Dims) (a a' : Arq) : Prop where
  eq : ∃ t, a' = { a with sendWnd := { a.sendWnd with tiny := t } }
  off : a.sendWnd.tinyOn = false
  complete : ∃ base content, SendLayout d a.sendWnd.w base content ∧ d.msgLen ∣ content.length

section

variable {b : Build} {d : Dims} {a a' : Arq} {dt : Nat}

/-- A call that ends at the end of a message leaves the timer off; one that does not sets it. -/
theorem TimerStale.send (h : TimerStale d a a') (data : List UInt8) :
    callResult b a (.send data) = callResult b a' (.send data) ∧
      (perform b a (.send data) = perform b a' (.send data) ∨
        TimerStale d (perform b a (.send data)) (perform b a' (.send data))) := by
  obtain ⟨⟨t, rfl⟩, hoff, base, content, hl, hdvd⟩ := h
  simp only [callResult, perform, arqSend]
  by_cases hneed : a.needPoll = true
  · rw [if_pos hneed, if_pos hneed]
    exact ⟨rfl, Or.inr ⟨⟨t, rfl⟩, hoff, base, content, hl, hdvd⟩⟩
  rw [if_neg hneed, if_neg hneed]
  obtain ⟨t', heq, htimer⟩ := sendWndSend_stale a.sendWnd t data a.cfg.tinygramSendDelay
  have hlayout := sendWndSend_layout hl data a.cfg.tinygramSendDelay
  dsimp only
  rw [heq]
  refine ⟨rfl, ?_⟩
  by_cases hdata : data.length = 0
  · rw [sendWndSend_nil _ hdata]
    exact Or.inr ⟨⟨t', rfl⟩, hoff, base, content, hl, hdvd⟩
  obtain ⟨htaken, first, full, rem, hs⟩ := sendWndSend_spec hl hdata a.cfg.tinygramSendDelay
  by_cases hrem : rem = 0
  · refine Or.inr ⟨⟨t', rfl⟩, ?_, base, _, hlayout, ?_⟩
    · exact hs.tinyOn.trans (decide_eq_false (not_not_intro hrem))
    · rw [htaken, hs.split, hrem]
      exact ⟨first + full, by rw [Nat.add_zero, Nat.mul_comm]⟩
  · have hgrow : a.sendWnd.w.size < (sendWndSend a.sendWnd data a.cfg.tinygramSendDelay).1.w.size := by
      obtain ⟨k, hk⟩ := hdvd
      have hsize := hl.size
      rw [hk, Nat.mul_comm, segCount_mul d.msgLen_pos] at hsize
      have hsplit := hs.split
      have hle := @List.length_append _ content (data.take (sendTaken d content data))
      have hends := hs.size_eq
      rw [if_neg hrem] at hends
      by_contra hge
      have hmul := Nat.mul_le_mul_right d.msgLen (show first + full + 1 ≤ k by omega)
      have hlt := hs.rem_lt
      rw [Nat.succ_mul] at hmul
      rw [Nat.mul_comm] at hk
      omega
    refine Or.inl ?_
    rw [htimer (hs.tinyOn.trans (decide_eq_true hrem)) hgrow]

/-- The end of a poll, from what `arq__send_poll` leaves. -/
def pollFinish (b : Build) (arq : Arq) (dt : Nat) (s : SendWnd × SendWndPtr × Option FrameHdr × Bool) :
    Polled :=
  let r := pollRecv arq dt
  let c := connPoll b arq.conn s.2.2.1 r.rh dt arq.cfg
  { recvWnd := r.recvWnd
    recvFrame := r.recvFrame
    sendWnd := s.1
    sendWndPtr := s.2.1
    conn := c.conn
    event := c.event
    rh := r.rh
    sh := c.sh
    emit := r.emit || s.2.2.2 || c.emit }

theorem pollWork_stale (b : Build) (hoff : a.sendWnd.tinyOn = false) (t dt : Nat) :
    pollWork b { a with sendWnd := { a.sendWnd with tiny := t } } dt =
        { pollWork b a dt with sendWnd := { (pollWork b a dt).sendWnd with tiny := t } } ∧
      (pollWork b a dt).sendWnd.tinyOn = false := by
  have hplain : pollWork b a dt = pollFinish b a dt (sendPoll a.sendWnd a.sendWndPtr
    (pollRecv a dt).sh (pollRecv a dt).rh dt a.cfg.retransmissionTimeout) := rfl
  have hstale : pollWork b { a with sendWnd := { a.sendWnd with tiny := t } } dt =
    pollFinish b a dt (sendPoll { a.sendWnd with tiny := t } a.sendWndPtr (pollRecv a dt).sh
      (pollRecv a dt).rh dt a.cfg.retransmissionTimeout) := rfl
  obtain ⟨hsend, hoff'⟩ := sendPoll_stale hoff t a.sendWndPtr (pollRecv a dt).sh (pollRecv a dt).rh dt
    a.cfg.retransmissionTimeout
  rw [hstale, hsend, hplain]
  exact ⟨rfl, hoff'⟩

theorem nextPoll_stale (b : Build) {sw : SendWnd} (hoff : sw.tinyOn = false) (t : Nat) (rw : RecvWnd)
    (c : Conn) : nextPoll b { sw with tiny := t } rw c = nextPoll b sw rw c := by
  unfold nextPoll
  simp only [hoff, Bool.false_eq_true, false_and, if_false]

theorem TimerStale.poll (b : Build) (h : TimerStale d a a') (dt : Nat) :
    callResult b a (.poll dt) = callResult b a' (.poll dt) ∧
      TimerStale d (perform b a (.poll dt)) (perform b a' (.poll dt)) := by
  obtain ⟨⟨t, rfl⟩, hoff, base, content, hl, hdvd⟩ := h
  have hlayout := @sendHistStep_layout d ⟨a, base, content, []⟩ b hl (.poll dt)
  obtain ⟨hwork, hoff'⟩ := pollWork_stale b hoff t dt
  have hpoll : backendPoll b { a with sendWnd := { a.sendWnd with tiny := t } } dt =
      ({ (backendPoll b a dt).1 with
          sendWnd := { (backendPoll b a dt).1.sendWnd with tiny := t } }, (backendPoll b a dt).2) := by
    unfold backendPoll
    rw [hwork]
    dsimp only
    rw [nextPoll_stale b hoff']
    rfl
  refine ⟨?_, ⟨t, ?_⟩, hoff', _, _, hlayout, ?_⟩
  · simp only [callResult]
    rw [hpoll]
  · simp only [perform]
    rw [hpoll]
  · change d.msgLen ∣ (content.drop (_ * (backendPoll b a dt).1.sendWnd.w.msgLen)).length
    have hmsgLen : (backendPoll b a dt).1.sendWnd.w.msgLen = d.msgLen := hlayout.shape.msgLen
    rw [hmsgLen, List.length_drop]
    exact Nat.dvd_sub hdvd (Dvd.intro_left _ rfl)

theorem TimerStale.step (b : Build) (h : TimerStale d a a') (c : Call) :
    callResult b a c = callResult b a' c ∧
      (perform b a c = perform b a' c ∨ TimerStale d (perform b a c) (perform b a' c)) := by
  cases c with
  | send data => exact h.send data
  | poll dt =>
    obtain ⟨hresult, hnext⟩ := h.poll b dt
    exact ⟨hresult, Or.inr hnext⟩
  | flush =>
    obtain ⟨⟨t, rfl⟩, hoff, base, content, hl, hdvd⟩ := h
    simp only [callResult, perform, arqFlush]
    rw [sendWndFlush_tiny a.sendWnd t]
    exact ⟨trivial, Or.inr ⟨⟨t, rfl⟩, (sendWndFlush_tinyOn a.sendWnd).trans hoff, base, content,
      sendWndFlush_layout hl, hdvd⟩⟩
  | reset =>
    obtain ⟨⟨t, rfl⟩, -⟩ := h
    exact ⟨rfl, Or.inl rfl⟩
  | recv | sendPtrGet | sendPtrRelease | recvFill | connect =>
    obtain ⟨⟨t, rfl⟩, hoff, hcomplete⟩ := h
    simp only [callResult, perform, arqRecv, backendSendPtrGet, backendSendPtrRelease,
      backendRecvFill, arqConnect]
    split_ifs <;> exact ⟨rfl, Or.inr ⟨⟨t, rfl⟩, hoff, hcomplete⟩⟩

theorem TimerStale.sameFuture (h : TimerStale d a a') : SameFuture b a a' := by
  refine .of_relation (R := fun a a' => a = a' ∨ TimerStale d a a') ?_ (Or.inr h)
  rintro a a' c (rfl | h)
  · exact ⟨rfl, Or.inl rfl⟩
  · exact h.step b c

end

/-! ## Two pieces -/

section

variable {m : Buf} {dst n : Nat} {xs : List UInt8}

/-- The bytes behind a zero are not read. -/
theorem recvFrameFillGo_found (h : (recvFrameFillGo m dst xs).2.2 = true) (ys : List UInt8) :
    recvFrameFillGo m dst (xs ++ ys) = recvFrameFillGo m dst xs := by
  induction xs generalizing m dst with
  | nil => exact Bool.noConfusion h
  | cons x xs ih =>
    rw [List.cons_append, recvFrameFillGo, recvFrameFillGo]
    rw [recvFrameFillGo] at h
    dsimp only at h ⊢
    by_cases hx : x = 0
    · rw [if_pos hx, if_pos hx]
    · rw [if_neg hx] at h
      rw [if_neg hx, if_neg hx, ih h]

/-- Without a zero all bytes are taken. -/
theorem recvFrameFillGo_open (h : (recvFrameFillGo m dst xs).2.2 = false) (ys : List UInt8)
    {r r' : Buf × Nat × Bool} (hr : r = recvFrameFillGo m dst xs)
    (hr' : r' = recvFrameFillGo r.1 (dst + r.2.1) ys) :
    r.2.1 = xs.length ∧ recvFrameFillGo m dst (xs ++ ys) = (r'.1, r.2.1 + r'.2.1, r'.2.2) := by
  subst hr hr'
  induction xs generalizing m dst with
  | nil =>
    rw [List.nil_append, recvFrameFillGo]
    exact ⟨rfl, by rw [Nat.zero_add]; rfl⟩
  | cons x xs ih =>
    rw [List.cons_append, recvFrameFillGo, recvFrameFillGo]
    rw [recvFrameFillGo] at h
    dsimp only at h ⊢
    by_cases hx : x = 0
    · rw [if_pos hx] at h
      exact Bool.noConfusion h
    · rw [if_neg hx] at h
      obtain ⟨hlen, heq⟩ := ih h
      rw [if_neg hx, if_neg hx, heq, hlen]
      refine ⟨rfl, ?_⟩
      dsimp only
      rw [Nat.add_assoc dst 1, Nat.add_comm 1 xs.length, Nat.add_right_comm xs.length]

end

/-- **Two fills are one.** -/
theorem recvFrameFill_append {f : RecvFrame} (hlen : f.len ≤ f.cap) (hcap : f.cap < 65536)
    (xs ys : List UInt8) {r₁ r₂ : RecvFrame × Nat} (hr₁ : r₁ = recvFrameFill f xs)
    (hr₂ : r₂ = recvFrameFill r₁.1 ys) : recvFrameFill f (xs ++ ys) = (r₂.1, r₁.2 + r₂.2) := by
  subst hr₂ hr₁
  by_cases hfull : f.state = .fullFramePresent
  · have hsame : ∀ src, recvFrameFill f src = (f, 0) := fun src => by rw [recvFrameFill, if_pos hfull]
    rw [hsame, hsame xs]
    dsimp only
    rw [hsame]
    rfl
  have hgo : ∀ src, recvFrameFill f src =
      ({ f with
          buf := (recvFrameFillGo f.buf f.len (src.take (f.cap - f.len))).1
          len := u16 (f.len + (recvFrameFillGo f.buf f.len (src.take (f.cap - f.len))).2.1)
          state := if (recvFrameFillGo f.buf f.len (src.take (f.cap - f.len))).2.2 then
            .fullFramePresent else f.state },
        (recvFrameFillGo f.buf f.len (src.take (f.cap - f.len))).2.1) := by
    intro src
    rw [recvFrameFill, if_neg hfull, sub32_of_le hlen]
  rw [hgo (xs ++ ys), hgo xs, List.take_append]
  obtain ⟨g, hg⟩ : ∃ g, g = recvFrameFillGo f.buf f.len (xs.take (f.cap - f.len)) := ⟨_, rfl⟩
  rw [← hg]
  cases hzero : g.2.2 with
  | true =>
    rw [recvFrameFillGo_found (hg ▸ hzero), ← hg, hzero, if_pos rfl, recvFrameFill, if_pos rfl]
    rfl
  | false =>
    obtain ⟨htaken, heq⟩ := recvFrameFillGo_open (hg ▸ hzero) (ys.take (f.cap - f.len - xs.length))
      hg rfl
    rw [List.length_take] at htaken
    have hu16 : u16 (f.len + g.2.1) = f.len + g.2.1 := u16_of_lt (by omega)
    have hroom : sub32 f.cap (f.len + g.2.1) = f.cap - f.len - xs.length := by
      rw [sub32_of_le (by omega)]
      omega
    rw [heq, hu16, if_neg Bool.false_ne_true, recvFrameFill]
    dsimp only
    rw [if_neg hfull, hroom, Nat.add_assoc]

/-- How much of its bytes a call has taken. -/
def CallResult.taken : CallResult → Nat
  | .counted _ n => n
  | _ => 0

/-- The error code of a call that takes bytes. -/
def CallResult.takenErr : CallResult → Option Err
  | .counted err _ => some err
  | _ => none

section

variable {b : Build} {cfg : Cfg} {d : Dims} {arq : Arq} {base : Nat} {content : List UInt8}

/-- The call of `mk` on the bytes `xs ++ ys` takes as much as the calls on `xs` and `ys` do, ends with
the error of the second one, and leaves the same future. -/
structure TwoAsOne (b : Build) (arq : Arq) (mk : List UInt8 → Call) (xs ys : List UInt8) : Prop where
  taken : (callResult b arq (mk xs)).taken + (callResult b (perform b arq (mk xs)) (mk ys)).taken =
    (callResult b arq (mk (xs ++ ys))).taken
  err : (callResult b (perform b arq (mk xs)) (mk ys)).takenErr =
    (callResult b arq (mk (xs ++ ys))).takenErr
  future : SameFuture b (perform b arq (mk (xs ++ ys))) (perform b (perform b arq (mk xs)) (mk ys))

theorem send_nil (b : Build) (arq : Arq) :
    perform b arq (.send []) = arq ∧ (callResult b arq (.send [])).taken = 0 := by
  simp only [perform, callResult, arqSend, CallResult.taken]
  rw [sendWndSend_nil _ rfl]
  split <;> exact ⟨rfl, rfl⟩

theorem SendMerges.twin {sw sw' : SendWnd} (h : SendMerges sw sw') (hcap : 0 < sw.w.cap) :
    SendTwin (fun _ => true) { sw with tiny := sw'.tiny } sw' :=
  ⟨sw'.w.msg, sw.w.buf, sw'.rtx, h.rest, ⟨hcap, h.msg, fun _ _ => rfl⟩, h.rtx⟩

theorem send_err (b : Build) (arq : Arq) (xs ys : List UInt8) :
    (callResult b (perform b arq (.send xs)) (.send ys)).takenErr =
      (callResult b arq (.send (xs ++ ys))).takenErr := by
  have hneed : (arqSend arq xs).1.needPoll = arq.needPoll := by
    unfold arqSend
    split <;> rfl
  have herr : ∀ a data, (callResult b a (.send data)).takenErr =
      some (if a.needPoll then .errPollRequired else .okCompleted) := by
    intro a data
    simp only [callResult, arqSend, CallResult.takenErr]
    split <;> rfl
  rw [herr, herr, perform, hneed]

theorem send_two (hl : SendLayout d arq.sendWnd.w base content) (hrecv : 0 < arq.recvWnd.w.cap)
    (xs ys : List UInt8) : TwoAsOne b arq .send xs ys := by
  have herr := send_err b arq xs ys
  by_cases hneed : arq.needPoll = true
  · have hsame : ∀ data, perform b arq (.send data) = arq ∧ (callResult b arq (.send data)).taken = 0 := by
      intro data
      simp only [perform, callResult, arqSend, if_pos hneed, CallResult.taken, and_self]
    refine ⟨?_, herr, ?_⟩
    · rw [(hsame xs).1, (hsame xs).2, (hsame ys).2, (hsame _).2]
    · rw [(hsame xs).1, (hsame ys).1, (hsame _).1]
      exact .refl b arq
  by_cases hxs : xs.length = 0
  · obtain rfl := List.length_eq_zero_iff.mp hxs
    refine ⟨?_, herr, ?_⟩
    · rw [(send_nil b arq).1, (send_nil b arq).2, Nat.zero_add, List.nil_append]
    · rw [(send_nil b arq).1, List.nil_append]
      exact .refl b _
  by_cases hys : ys.length = 0
  · obtain rfl := List.length_eq_zero_iff.mp hys
    refine ⟨?_, herr, ?_⟩
    · rw [(send_nil b _).2, Nat.add_zero, List.append_nil]
    · rw [(send_nil b _).1, List.append_nil]
      exact .refl b _
  obtain ⟨hcount, hmerges, hdvd⟩ := sendWndSend_append hl hxs hys arq.cfg.tinygramSendDelay rfl rfl rfl
  have hlayout := sendWndSend_layout hl (xs ++ ys) arq.cfg.tinygramSendDelay
  have hsend : ∀ data, perform b arq (.send data) =
      { arq with sendWnd := (sendWndSend arq.sendWnd data arq.cfg.tinygramSendDelay).1 } := by
    intro data
    simp only [perform, arqSend, if_neg hneed]
  have htaken : ∀ data, (callResult b arq (.send data)).taken =
      (sendWndSend arq.sendWnd data arq.cfg.tinygramSendDelay).2 := by
    intro data
    simp only [callResult, arqSend, if_neg hneed, CallResult.taken]
  refine ⟨?_, herr, ?_⟩
  · rw [htaken, htaken, hsend, ← hcount]
    simp only [callResult, arqSend, if_neg hneed, CallResult.taken]
  have htwo : perform b (perform b arq (.send xs)) (.send ys) =
      { arq with sendWnd := (sendWndSend (sendWndSend arq.sendWnd xs arq.cfg.tinygramSendDelay).1 ys
          arq.cfg.tinygramSendDelay).1 } := by
    rw [hsend]
    simp only [perform, arqSend, if_neg hneed]
  rw [htwo, hsend]
  generalize (sendWndSend arq.sendWnd (xs ++ ys) arq.cfg.tinygramSendDelay).1 = one at *
  generalize (sendWndSend (sendWndSend arq.sendWnd xs arq.cfg.tinygramSendDelay).1 ys
    arq.cfg.tinygramSendDelay).1 = two at *
  have hcap : 0 < one.w.cap := by
    rw [hlayout.shape.cap]
    exact d.cap_pos
  have htwin : SameFuture b { arq with sendWnd := { one with tiny := two.tiny } }
      { arq with sendWnd := two } := by
    refine Twin.sameFuture (@Twin.of_windows { arq with sendWnd := { one with tiny := two.tiny } } two
      arq.recvWnd (hmerges.twin hcap) ?_)
    exact ⟨_, _, _, rfl, .refl hrecv, fun _ _ => rfl⟩
  -- the merged call sets the timer whenever it leaves it running
  cases hon : one.tinyOn with
  | true =>
    rw [hmerges.tiny hon] at htwin
    exact htwin
  | false =>
    refine .trans ?_ htwin
    exact TimerStale.sameFuture ⟨⟨two.tiny, rfl⟩, hon, base, _, hlayout, hdvd hon⟩

theorem recvFill_perform (b : Build) (arq : Arq) (data : List UInt8) :
    perform b arq (.recvFill data) =
      { arq with
        recvFrame := (recvFrameFill arq.recvFrame data).1
        needPoll := arq.needPoll || decide ((recvFrameFill arq.recvFrame data).1.state =
          .fullFramePresent) } := by
  simp only [perform, backendRecvFill]
  split
  · rename_i hfull
    rw [decide_eq_true hfull, Bool.or_true]
  · rename_i hopen
    rw [decide_eq_false hopen, Bool.or_false]

theorem recvFill_result (b : Build) (arq : Arq) (data : List UInt8) :
    callResult b arq (.recvFill data) =
      .counted (if (recvFrameFill arq.recvFrame data).1.state = .fullFramePresent then .okPollRequired
        else .okCompleted) (recvFrameFill arq.recvFrame data).2 := by
  simp only [callResult, backendRecvFill]
  split <;> rfl

theorem fill_two (hlen : arq.recvFrame.len ≤ arq.recvFrame.cap) (hcap : arq.recvFrame.cap < 65536)
    (xs ys : List UInt8) : TwoAsOne b arq .recvFill xs ys := by
  have happ := recvFrameFill_append hlen hcap xs ys rfl rfl
  have hthen : (perform b arq (.recvFill xs)).recvFrame = (recvFrameFill arq.recvFrame xs).1 := by
    rw [recvFill_perform]
  refine ⟨?_, ?_, ?_⟩
  · rw [recvFill_result, recvFill_result, recvFill_result, hthen, happ]
    rfl
  · rw [recvFill_result, recvFill_result, hthen, happ]
    rfl
  rw [recvFill_perform b _ ys, recvFill_perform b arq xs, recvFill_perform b arq, happ]
  dsimp only
  rw [Bool.or_assoc]
  have hstays : (recvFrameFill arq.recvFrame xs).1.state = .fullFramePresent →
      (recvFrameFill (recvFrameFill arq.recvFrame xs).1 ys).1.state = .fullFramePresent := by
    intro hfull
    rw [recvFrameFill, if_pos hfull]
    exact hfull
  have hor : (decide ((recvFrameFill arq.recvFrame xs).1.state = .fullFramePresent) ||
      decide ((recvFrameFill (recvFrameFill arq.recvFrame xs).1 ys).1.state = .fullFramePresent)) =
      decide ((recvFrameFill (recvFrameFill arq.recvFrame xs).1 ys).1.state = .fullFramePresent) := by
    rw [← Bool.decide_or]
    exact decide_eq_decide.mpr ⟨fun h => h.elim hstays id, Or.inr⟩
  rw [hor]
  exact .refl b _

/-! ## Many pieces -/

/-- The calls of `mk` on the pieces `x :: xs` take as much as one call on all of their bytes, the last
one ends with its error, and they leave the same future. -/
structure PiecesAsOne (b : Build) (arq : Arq) (mk : List UInt8 → Call) (x : List UInt8)
    (xs : List (List UInt8)) : Prop where
  taken : ((trace (perform b) (callResult b) arq ((x :: xs).map mk)).map CallResult.taken).sum =
    (callResult b arq (mk (x :: xs).flatten)).taken
  err : (trace (perform b) (callResult b) arq ((x :: xs).map mk)).getLast?.bind CallResult.takenErr =
    (callResult b arq (mk (x :: xs).flatten)).takenErr
  future : SameFuture b (perform b arq (mk (x :: xs).flatten))
    (((x :: xs).map mk).foldl (perform b) arq)

/-- What holds for two pieces holds for many. -/
theorem pieces_of_two {I : Arq → Prop} {mk : List UInt8 → Call}
    (hkeep : ∀ arq data, I arq → I (perform b arq (mk data)))
    (htwo : ∀ arq xs ys, I arq → TwoAsOne b arq mk xs ys) (hI : I arq) (x : List UInt8)
    (xs : List (List UInt8)) : PiecesAsOne b arq mk x xs := by
  induction xs generalizing arq x with
  | nil =>
    have hflat : [x].flatten = x := List.flatten_singleton
    refine ⟨?_, ?_, ?_⟩
    · rw [hflat]
      simp [trace]
    · rw [hflat]
      rfl
    · rw [hflat]
      exact .refl b _
  | cons y xs ih =>
    obtain ⟨htaken, herr, hfuture⟩ := htwo arq x (y :: xs).flatten hI
    obtain ⟨htaken', herr', hfuture'⟩ := ih (hkeep arq x hI) y
    refine ⟨?_, ?_, ?_⟩
    · rw [List.flatten_cons, ← htaken, ← htaken']
      rfl
    · rw [List.flatten_cons, ← herr, ← herr']
      rfl
    · rw [List.flatten_cons]
      exact hfuture.trans hfuture'

/-- What every call keeps of the receive frame. -/
theorem run_received {seat arq₀ : Arq} (hinit : arqInit b cfg seat = .ok arq₀)
    (hrun : Run (perform b) (fun _ _ => True) arq₀ arq) :
    Received arq.recvFrame ∧ arq.recvFrame.cap < 65536 := by
  refine hrun.invariant (I := fun a => Received a.recvFrame ∧ a.recvFrame.cap < 65536) ?_ ?_
  · rw [arqInit_ok hinit]
    have hcap : u16 (frameLen cfg.segmentLengthInBytes) < 65536 := Nat.mod_lt _ (by omega)
    exact ⟨.accumulating [] (accumulating_rst hcap), hcap⟩
  · rintro a c ⟨hrec, hcap⟩ -
    refine ⟨?_, by rwa [perform_frameCap]⟩
    obtain hsame | ⟨f, hf, hrst⟩ | ⟨data, -, hfill⟩ := perform_recvFrame b a c
    · rw [hsame]
      exact hrec
    · rw [hrst]
      exact .accumulating [] (accumulating_rst (hf ▸ hcap))
    · rw [hfill]
      exact hrec.fill data

/-- The send window is laid out, and the receive window has a slot. -/
def Sendable (d : Dims) (arq : Arq) : Prop :=
  (∃ base content, SendLayout d arq.sendWnd.w base content) ∧ 0 < arq.recvWnd.w.cap

theorem Sendable.send (h : Sendable d arq) (data : List UInt8) :
    Sendable d (perform b arq (.send data)) := by
  obtain ⟨⟨base, content, hl⟩, hcap⟩ := h
  refine ⟨⟨_, _, @sendHistStep_layout d ⟨arq, base, content, []⟩ b hl (.send data)⟩, ?_⟩
  simp only [perform, arqSend]
  split <;> exact hcap

theorem run_sendable {seat arq₀ : Arq} (hd : cfg.Has d cfg.sendWindowSizeInMessages)
    (hinit : arqInit b cfg seat = .ok arq₀) (hrun : Run (perform b) (fun _ _ => True) arq₀ arq)
    (hrecv : 0 < u16 cfg.recvWindowSizeInMessages) : Sendable d arq := by
  refine ⟨?_, ?_⟩
  · refine hrun.invariant (I := fun a => ∃ base content, SendLayout d a.sendWnd.w base content)
      ⟨0, [], arqInit_sendLayout hinit hd⟩ ?_
    rintro a c ⟨base, content, hl⟩ -
    have hnext := @sendHistStep_layout d ⟨a, base, content, []⟩ b hl c
    rw [sendHistStep_arq] at hnext
    exact ⟨_, _, hnext⟩
  · obtain ⟨seat', hrecvRun⟩ := instance_recvRun hinit hrun
    rw [hrecvRun.bounded.dims.cap_eq]
    exact hrecv

end

/-- **Where the pieces end does not matter**: after any run, `arq_send` and `arq_backend_recv_fill`
take of the pieces of a stream what they take of the whole, and no later call of any kind returns
anything else. -/
theorem pieces_taken_as_one (b : Build) (cfg : Cfg) (hcfg : cfg.SendRegular)
    (hrecv : 0 < u16 cfg.recvWindowSizeInMessages) (seat arq₀ arq : Arq)
    (hinit : arqInit b cfg seat = .ok arq₀) (hrun : Run (perform b) (fun _ _ => True) arq₀ arq)
    (x : List UInt8) (xs : List (List UInt8)) :
    PiecesAsOne b arq .send x xs ∧ PiecesAsOne b arq .recvFill x xs := by
  obtain ⟨d, hd⟩ := hcfg.dims hinit
  refine ⟨?_, ?_⟩
  · refine pieces_of_two (I := Sendable d) (fun _ data h => h.send data) ?_
      (run_sendable hd hinit hrun hrecv) x xs
    rintro a ys zs ⟨⟨base, content, hl⟩, hcap⟩
    exact send_two hl hcap ys zs
  · refine pieces_of_two (I := fun a => Run (perform b) (fun _ _ => True) arq₀ a)
      (fun a data h => h.next (.recvFill data) trivial) ?_ hrun x xs
    intro a ys zs ha
    obtain ⟨hrec, hcap⟩ := run_received hinit ha
    exact fill_two hrec.len_le hcap ys zs

/-- The second piece completes the message that the first one has left to the tinygram timer. -/
theorem pieces_taken_as_one_sample :
    let arq := perform ⟨false⟩ (freshArq ⟨false⟩ (smallCfg 1 2 2)) (.send [1])
    (trace (perform ⟨false⟩) (callResult ⟨false⟩) arq ([[2], [3, 4, 5]].map .send)).map
        CallResult.taken = [1, 2] ∧
      PiecesAsOne ⟨false⟩ arq .send [2] [[3, 4, 5]] ∧ PiecesAsOne ⟨false⟩ arq .recvFill [2] [[3, 4, 5]] := by
  refine ⟨by decide +kernel, pieces_taken_as_one ⟨false⟩ (smallCfg 1 2 2)
    ⟨⟨1, by decide, rfl⟩, by decide, by decide⟩ (by decide) (zeroSeat _) _ _ (arqInit_zeroSeat rfl)
    (.next .start (.send [1]) trivial) [2] [[3, 4, 5]]⟩

/-! ## Reading in pieces -/

/-- The bytes that a call of `arq_recv` has copied. -/
def CallResult.read : CallResult → List UInt8
  | .bytes _ bs => bs
  | _ => []

/-- The reads of the lengths `n :: ns` return the bytes of one read, and leave the same future. -/
def ReadsAsOne (b : Build) (arq : Arq) (n : Nat) (ns : List Nat) : Prop :=
  (trace (perform b) (callResult b) arq ((n :: ns).map .recv)).flatMap CallResult.read =
      (callResult b arq (.recv (n :: ns).sum)).read ∧
    SameFuture b (perform b arq (.recv (n :: ns).sum)) (((n :: ns).map .recv).foldl (perform b) arq)

/-- The receive window holds the beginnings of messages that fit, and the send window has a slot. -/
def Readable (d : RecvDims) (arq : Arq) : Prop :=
  (∃ M got read, RecvLayout d M got read arq.recvWnd ∧ ∀ k, MsgFits d (M k)) ∧ 0 < arq.sendWnd.w.cap

section

variable {b : Build} {cfg : Cfg} {d : RecvDims} {arq : Arq} {n : Nat}

theorem recv_eq (b : Build) (hneed : arq.needPoll = false) (n : Nat) :
    perform b arq (.recv n) = { arq with recvWnd := (recvWndRecv arq.recvWnd n).1 } ∧
      (callResult b arq (.recv n)).read = (recvWndRecv arq.recvWnd n).2 := by
  have hnot : ¬ arq.needPoll = true := by rw [hneed]; exact Bool.false_ne_true
  simp only [perform, callResult, arqRecv, if_neg hnot, CallResult.read, and_self]

theorem recv_blocked (b : Build) (hneed : arq.needPoll = true) (n : Nat) :
    perform b arq (.recv n) = arq ∧ (callResult b arq (.recv n)).read = [] := by
  simp only [perform, callResult, arqRecv, if_pos hneed, CallResult.read, and_self]

theorem Readable.recv (h : Readable d arq) (n : Nat) : Readable d (perform b arq (.recv n)) := by
  cases hneed : arq.needPoll with
  | true => rwa [(recv_blocked b hneed n).1]
  | false =>
    obtain ⟨⟨M, got, read, hl, hM⟩, hcap⟩ := h
    obtain ⟨e, he⟩ := hl.leading hM
    obtain ⟨read', hl', -⟩ := recvWndRecv_layout hl hM he n
    rw [(recv_eq b hneed n).1]
    exact ⟨⟨M, got, read', hl', hM⟩, hcap⟩

theorem recv_two (h : Readable d arq) (n m : Nat) :
    (callResult b arq (.recv n)).read ++ (callResult b (perform b arq (.recv n)) (.recv m)).read =
        (callResult b arq (.recv (n + m))).read ∧
      SameFuture b (perform b arq (.recv (n + m))) (perform b (perform b arq (.recv n)) (.recv m)) := by
  cases hneed : arq.needPoll with
  | true =>
    rw [(recv_blocked b hneed n).1, (recv_blocked b hneed n).2, (recv_blocked b hneed m).1,
      (recv_blocked b hneed m).2, (recv_blocked b hneed _).1, (recv_blocked b hneed _).2]
    exact ⟨rfl, .refl b arq⟩
  | false =>
    obtain ⟨⟨M, got, read, hl, hM⟩, hcap⟩ := h
    obtain ⟨hbytes, hrest, hmsg⟩ := recvWndRecv_append hl hM n m rfl rfl rfl
    obtain ⟨e, he⟩ := hl.leading hM
    obtain ⟨read', hl', -⟩ := recvWndRecv_layout hl hM he (n + m)
    have hneed' : (perform b arq (.recv n)).needPoll = false := by
      rw [(recv_eq b hneed n).1]
      exact hneed
    rw [(recv_eq b hneed' m).1, (recv_eq b hneed' m).2, (recv_eq b hneed n).1, (recv_eq b hneed n).2,
      (recv_eq b hneed _).1, (recv_eq b hneed _).2]
    refine ⟨hbytes, ?_⟩
    dsimp only
    generalize (recvWndRecv arq.recvWnd (n + m)).1 = one at *
    generalize (recvWndRecv (recvWndRecv arq.recvWnd n).1 m).1 = two at *
    have hone : 0 < one.w.cap := by
      rw [hl'.cap_eq]
      exact d.cap_pos
    refine Twin.sameFuture (@Twin.of_windows { arq with recvWnd := one } arq.sendWnd two ?_ ?_)
    · exact ⟨_, _, _, rfl, .refl hcap, fun _ _ => rfl⟩
    · exact ⟨two.w.msg, one.w.buf, one.ack, hrest, ⟨hone, hmsg, fun _ _ => rfl⟩, fun _ _ => rfl⟩

theorem Readable.pieces (h : Readable d arq) (n : Nat) (ns : List Nat) : ReadsAsOne b arq n ns := by
  induction ns generalizing arq n with
  | nil => exact ⟨by simp [trace], by simpa using .refl b _⟩
  | cons m ns ih =>
    obtain ⟨hread, hfuture⟩ := @recv_two b d arq h n (m :: ns).sum
    obtain ⟨hread', hfuture'⟩ := ih (h.recv n) m
    unfold ReadsAsOne
    rw [List.sum_cons, ← hread, ← hread']
    exact ⟨rfl, hfuture.trans hfuture'⟩

theorem Across.readable {d : Dims} {hcap : d.cap ≤ 2048} {x y : Station}
    {data data' acks acks' : List (FrameHdr × List UInt8)} (h : Across d hcap x y data acks)
    (h' : Across d hcap y x data' acks') : Readable (d.recv hcap) y.arq := by
  obtain ⟨past, got, low, told, read, ht⟩ := h
  obtain ⟨past', got', low', told', read', ht'⟩ := h'
  refine ⟨⟨_, _, _, ht.receiver.layout, ht.fits⟩, ?_⟩
  have hcap := ht'.sender.wnd.targets.layout.shape.cap
  exact hcap ▸ d.cap_pos

end

/-- **The lengths of the reads do not matter**: in every run in which the streams arrive in order, the
reads of one side return the bytes of one read of their lengths' sum, and no later call of any
kind returns anything else. -/
theorem reads_as_one (b : Build) (hb : b.useConnections = false) (cfg : Cfg) (hcfg : cfg.Symmetric)
    (seat arq₀ : Side → Arq) (hinit : ∀ x, arqInit b cfg (seat x) = .ok (arq₀ x)) (p : Duplex)
    (hrun : Run (duplexStep b) (fun p a => DeliveryMove (p.view a.1).left a.2)
      (.start (arq₀ .left) (arq₀ .right)) p) (x : Side) (n : Nat) (ns : List Nat) :
    ReadsAsOne b (p.view x).right.arq n ns := by
  obtain ⟨d, hd⟩ := hcfg.regular.dims (hinit .left)
  have hcap : d.cap ≤ 2048 := by
    rw [← hd.cap]
    exact (pow_window hcfg.cap).1
  have hlinked : ∃ qr ql, Linked b cfg d hcap p qr ql := by
    refine hrun.invariant (I := fun p => ∃ qr ql, Linked b cfg d hcap p qr ql)
      ⟨[], [], .start hcfg hd hinit⟩ ?_
    rintro p ⟨y, c⟩ ⟨qr, ql, h⟩ hok
    cases y with
    | left => exact h.move hb hcfg hd hok
    | right =>
      obtain ⟨ql', qr', h'⟩ := h.swap.move hb hcfg hd hok
      exact ⟨qr', ql', h'.swap⟩
  obtain ⟨qr, ql, h⟩ := hlinked
  cases x with
  | left => exact (h.across.readable h.back).pieces n ns
  | right => exact (h.back.readable h.across).pieces n ns

/-- A message of two bytes crosses and is not read yet. -/
def crossedMoves : List (Side × LinkCall) :=
  [(.left, .send [7, 8]), (.left, .poll 0), (.left, .get true), (.left, .release), (.left, .poll 0),
    (.right, .deliver 19), (.right, .poll 0), (.left, .get true), (.left, .release), (.left, .poll 0),
    (.right, .deliver 19), (.right, .poll 0)]

theorem reads_as_one_sample :
    (callResult ⟨false⟩ (deliverySample 2 1 crossedMoves).right.arq (.recv 2)).read = [7, 8] ∧
      ReadsAsOne ⟨false⟩ ((deliverySample 2 1 crossedMoves).view .left).right.arq 1 [1] :=
  ⟨by decide +kernel, reads_as_one ⟨false⟩ rfl (smallCfg 1 2 1)
    ⟨rfl, ⟨0, by decide, rfl⟩, by decide, by decide⟩ (fun _ => zeroSeat _) _
    (fun _ => arqInit_zeroSeat rfl) _ (.exec (by decide +kernel)) .left 1 [1]⟩

end NanoArq
