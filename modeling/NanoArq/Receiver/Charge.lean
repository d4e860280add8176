import NanoArq.Receiver.Gaps

/-!
# What the inter-segment timer is charged

A poll that stores a segment starts the inter-segment timer and then steps it by its own `dt`, so the
timer of that segment is charged with time that passed before the segment was there.
`arq__send_poll` steps its timers first and starts one afterwards.

* `Charged.step`: the timer has `timeout` less the `dt` of the poll that started it and less those of
  the polls since.
* `pollTimer_timely`: if every poll that starts the timer has `dt = 0`, the timer runs out only when
  the polls since have run for `timeout`; after any other poll that starts it, it can run out early.
-/

namespace NanoArq

open Lib

/-- The next poll stores a segment that starts the timer: the segment is new, and it is not the last
one of its message. -/
def Arms (arq : Arq) : Prop :=
  ∃ r ∈ pollSegment arq, ∃ rw ∈ recvWndSlide arq.recvWnd r.hdr.seqNum,
    (rw.w.msg (r.hdr.seqNum % rw.w.cap)).curAckVec.testBit r.hdr.segId = false ∧
      r.hdr.segId ≠ sub32 r.hdr.msgLen 1

instance (arq : Arq) : Decidable (Arms arq) :=
  inferInstanceAs (Decidable (∃ r ∈ pollSegment arq, _))

/-- The timer runs out in a poll by `dt`, which flags an ACK. -/
def Expires (rw : RecvWnd) (dt : Nat) : Prop := rw.interSegAckOn = true ∧ subSat rw.interSegAck dt = 0

instance (rw : RecvWnd) (dt : Nat) : Decidable (Expires rw dt) := inferInstanceAs (Decidable (_ ∧ _))

/-! ## Runs -/

/-- An instance, the `dt` of the last poll that started the timer, and the sum of those of the polls
since. -/
structure TimerHist where
  arq : Arq
  early : Nat
  since : Nat

def TimerHist.start (arq : Arq) : TimerHist where
  arq := arq
  early := 0
  since := 0

def timerHistStep (b : Build) (h : TimerHist) (c : Call) : TimerHist :=
  let arq := perform b h.arq c
  match c with
  | .poll dt =>
    if Arms h.arq then { arq := arq, early := dt, since := 0 }
    else { arq := arq, early := h.early, since := h.since + dt }
  | _ => { h with arq := arq }

abbrev TimerRun (b : Build) (ok : TimerHist → Call → Prop) (arq₀ : Arq) (h : TimerHist) : Prop :=
  Run (timerHistStep b) ok (.start arq₀) h

/-- In the poll by `dt` the timer runs out, and the polls after the one that started it have run for
less than `timeout`. -/
def Premature (b : Build) (timeout : Nat) (h : TimerHist) (dt : Nat) : Prop :=
  Expires (pollStored h.arq) dt ∧ (timerHistStep b h (.poll dt)).since < timeout

instance (b : Build) (timeout : Nat) (h : TimerHist) (dt : Nat) :
    Decidable (Premature b timeout h dt) := inferInstanceAs (Decidable (_ ∧ _))

/-- A poll that starts the timer has `dt = 0`. -/
def ArmedAtOnce (h : TimerHist) : Call → Prop
  | .poll dt => Arms h.arq → dt = 0
  | _ => True

instance (h : TimerHist) : (c : Call) → Decidable (ArmedAtOnce h c)
  | .poll dt => inferInstanceAs (Decidable (Arms h.arq → dt = 0))
  | .send _ | .flush | .recv _ | .sendPtrGet | .sendPtrRelease | .recvFill _ | .connect | .reset =>
    inferInstanceAs (Decidable True)

/-- What is left on the timer. -/
def Charged (timeout : Nat) (h : TimerHist) : Prop :=
  h.arq.recvWnd.interSegAckOn = true →
    0 < h.arq.recvWnd.interSegAck ∧ h.arq.recvWnd.interSegAck + h.early + h.since = timeout

section

variable {b : Build} {timeout dt : Nat} {arq : Arq} {h : TimerHist} {rw : RecvWnd}

@[simp] theorem timerHistStep_arq (b : Build) (h : TimerHist) (c : Call) :
    (timerHistStep b h c).arq = perform b h.arq c := by
  cases c
  case poll dt =>
    unfold timerHistStep
    dsimp only
    split <;> rfl
  all_goals rfl

/-- The only flag that stepping the timer sets is that of the message it belongs to, when it runs
out. -/
theorem recvPollTimer_ack (rw : RecvWnd) (dt : Nat) :
    (recvPollTimer rw dt).ack =
      if Expires rw dt then Function.update rw.ack (rw.interSegAckSeq % rw.w.cap) true
      else rw.ack := by
  by_cases hexp : Expires rw dt
  · rw [if_pos hexp, recvPollTimer, if_pos hexp.1, if_pos hexp.2]
  · rw [if_neg hexp, recvPollTimer]
    split_ifs with hon hout
    · exact absurd ⟨hon, hout⟩ hexp
    · rfl
    · rfl

theorem pollStored_of_none (h : pollSegment arq = none) : pollStored arq = arq.recvWnd := by
  rw [pollStored, h]

/-- A poll that starts the timer gives it all its time. -/
theorem Arms.stored (h : Arms arq) :
    (pollStored arq).interSegAckOn = true ∧
      (pollStored arq).interSegAck = arq.cfg.interSegmentTimeout := by
  obtain ⟨r, hr, rw, hslide, hnew, hlast⟩ := h
  rw [pollStored, hr]
  dsimp only
  rw [recvWndFrame, hslide]
  simp only [recvWndStore, hnew, hlast, if_false, Bool.false_eq_true]
  exact ⟨trivial, trivial⟩

/-- No other poll starts it or gives it time. -/
theorem pollStored_unarmed (h : ¬ Arms arq) (hon : (pollStored arq).interSegAckOn = true) :
    arq.recvWnd.interSegAckOn = true ∧
      (pollStored arq).interSegAck = arq.recvWnd.interSegAck := by
  cases hseg : pollSegment arq with
  | none =>
    rw [pollStored_of_none hseg] at hon ⊢
    exact ⟨hon, rfl⟩
  | some r =>
    rw [pollStored, hseg] at hon ⊢
    dsimp only at hon ⊢
    unfold recvWndFrame at hon ⊢
    cases hslide : recvWndSlide arq.recvWnd r.hdr.seqNum with
    | none =>
      rw [hslide] at hon
      exact ⟨hon, rfl⟩
    | some rw' =>
      have hrest := recvWndSlide_rest hslide
      rw [hslide] at hon
      unfold recvWndStore at hon ⊢
      dsimp only at hon ⊢
      split_ifs at hon ⊢ with hbit hlast
      · rw [hrest] at hon ⊢
        exact ⟨hon, rfl⟩
      · exact absurd ⟨r, hseg, rw', hslide, by simpa using hbit, hlast⟩ h

theorem Charged.stored (hc : Charged h.arq.cfg.interSegmentTimeout h)
    (hon : (pollStored h.arq).interSegAckOn = true) (dt : Nat) :
    (pollStored h.arq).interSegAck + (timerHistStep b h (.poll dt)).early +
        (timerHistStep b h (.poll dt)).since =
      h.arq.cfg.interSegmentTimeout + dt := by
  unfold timerHistStep
  dsimp only
  split_ifs with harms
  · rw [harms.stored.2, Nat.add_zero]
  · obtain ⟨hold, hleft⟩ := pollStored_unarmed harms hon
    have := (hc hold).2
    rw [hleft]
    dsimp only
    omega

theorem Charged.poll (hc : Charged h.arq.cfg.interSegmentTimeout h) (dt : Nat) :
    Charged h.arq.cfg.interSegmentTimeout (timerHistStep b h (.poll dt)) := by
  have hrest : (perform b h.arq (.poll dt)).recvWnd = _ := pollWork_recvWnd_rest b h.arq dt
  unfold Charged
  rw [timerHistStep_arq, hrest]
  dsimp only
  rw [pollReceived_eq]
  intro hon
  have hpos := recvPollTimer_pos _ _ hon
  obtain ⟨hold, hleft⟩ := recvPollTimer_left _ _ hon
  have hsum := hc.stored (b := b) hold dt
  omega

theorem Charged.step (hc : Charged h.arq.cfg.interSegmentTimeout h) (b : Build) (c : Call) :
    Charged h.arq.cfg.interSegmentTimeout (timerHistStep b h c) := by
  have hother : (∀ n, c ≠ .recv n) → (∀ dt, c ≠ .poll dt) → c ≠ .reset →
      Charged h.arq.cfg.interSegmentTimeout { h with arq := perform b h.arq c } := by
    intro hrecv hpoll hreset
    unfold Charged
    dsimp only
    rw [perform_recvWnd b h.arq hrecv hpoll hreset]
    exact hc
  cases c with
  | poll dt => exact hc.poll dt
  | recv n =>
    change Charged _ { h with arq := (arqRecv h.arq n).1 }
    unfold arqRecv
    split
    · exact hc
    · intro hon
      have hrest := recvWndRecv_rest h.arq.recvWnd n
      dsimp only at hon ⊢
      rw [hrest] at hon ⊢
      exact hc hon
  | reset =>
    intro hon
    cases hon
  | send | flush | sendPtrGet | sendPtrRelease | recvFill | connect =>
    exact hother (by simp) (by simp) (by simp)

/-- What is left on the timer decides when it runs out. -/
theorem Charged.expires_iff (hc : Charged h.arq.cfg.interSegmentTimeout h) (b : Build) (dt : Nat) :
    Expires (pollStored h.arq) dt ↔ (pollStored h.arq).interSegAckOn = true ∧
      h.arq.cfg.interSegmentTimeout ≤
        (timerHistStep b h (.poll dt)).early + (timerHistStep b h (.poll dt)).since := by
  unfold Expires
  rw [subSat_eq]
  constructor
  · rintro ⟨hon, hout⟩
    have := hc.stored (b := b) hon dt
    exact ⟨hon, by omega⟩
  · rintro ⟨hon, hout⟩
    have := hc.stored (b := b) hon dt
    exact ⟨hon, by omega⟩

theorem recvPollTimer_running (hon : rw.interSegAckOn = true) (hlt : dt < rw.interSegAck) :
    (recvPollTimer rw dt).interSegAckOn = true ∧
      (recvPollTimer rw dt).interSegAck = rw.interSegAck - dt := by
  have hleft : subSat rw.interSegAck dt ≠ 0 := by
    rw [subSat_eq]
    omega
  rw [recvPollTimer, if_pos hon, if_neg hleft]
  exact ⟨hon, subSat_eq _ _⟩

/-- A poll that starts the timer and does not have `dt = 0` makes it run out early, in the same poll
or in the next one. -/
theorem Arms.premature (harms : Arms h.arq) (b : Build) (hdt : 0 < dt)
    (hpos : 0 < h.arq.cfg.interSegmentTimeout) :
    Premature b h.arq.cfg.interSegmentTimeout h dt ∨
      Premature b h.arq.cfg.interSegmentTimeout (timerHistStep b h (.poll dt))
        (h.arq.cfg.interSegmentTimeout - dt) := by
  obtain ⟨hon, hall⟩ := harms.stored
  have hsince : (timerHistStep b h (.poll dt)).since = 0 := by
    unfold timerHistStep
    dsimp only
    rw [if_pos harms]
  by_cases hle : h.arq.cfg.interSegmentTimeout ≤ dt
  · refine Or.inl ⟨⟨hon, ?_⟩, ?_⟩
    · rw [subSat_eq, hall]
      omega
    · rw [hsince]
      exact hpos
  · -- the next poll finds no frame, and the timer with `timeout - dt`
    have hrest : (perform b h.arq (.poll dt)).recvWnd = _ := pollWork_recvWnd_rest b h.arq dt
    have hnone : pollSegment (timerHistStep b h (.poll dt)).arq = none := by
      rw [timerHistStep_arq, pollSegment, pollRead_of_accumulating]
      · rfl
      · exact backendPoll_accumulating b h.arq dt
    have hunarmed : ¬ Arms (timerHistStep b h (.poll dt)).arq := by
      rintro ⟨r, hr, -⟩
      rw [hnone] at hr
      cases hr
    obtain ⟨hon', hleft⟩ := @recvPollTimer_running dt (pollStored h.arq) hon (by omega)
    refine Or.inr ⟨?_, ?_⟩
    · unfold Expires
      rw [pollStored_of_none hnone, timerHistStep_arq, hrest, subSat_eq]
      dsimp only
      rw [pollReceived_eq, hleft, hall]
      exact ⟨hon', by omega⟩
    · generalize timerHistStep b h (.poll dt) = h' at hsince hunarmed ⊢
      unfold timerHistStep
      dsimp only
      rw [if_neg hunarmed]
      dsimp only
      omega

end

/-! ## The theorem -/

section

variable {b : Build} {cfg : Cfg} {seat arq₀ : Arq} {h : TimerHist} {ok : TimerHist → Call → Prop}

theorem TimerRun.arq (hrun : TimerRun b ok arq₀ h) :
    Run (perform b) (fun _ _ => True) arq₀ h.arq := by
  refine Run.map TimerHist.arq ?_ hrun
  intro h c _
  rw [timerHistStep_arq]
  exact .next .start c trivial

theorem TimerRun.cfg_eq (hinit : arqInit b cfg seat = .ok arq₀) (hrun : TimerRun b ok arq₀ h) :
    h.arq.cfg = cfg := by
  rw [run_cfg (TimerRun.arq hrun), arqInit_ok hinit]
  rfl

/-- In every run, the timer has what the polls have left of its timeout. -/
theorem charged_run (hinit : arqInit b cfg seat = .ok arq₀) (hrun : TimerRun b ok arq₀ h) :
    Charged cfg.interSegmentTimeout h := by
  induction hrun with
  | start =>
    rw [arqInit_ok hinit]
    intro hon
    cases hon
  | @next h hrun c _ ih =>
    have hcfg := TimerRun.cfg_eq hinit hrun
    rw [← hcfg] at ih ⊢
    exact ih.step b c

theorem early_run (hrun : TimerRun b ArmedAtOnce arq₀ h) : h.early = 0 := by
  induction hrun with
  | start => rfl
  | @next h _ c hok ih =>
    cases c
    case poll dt =>
      unfold timerHistStep
      dsimp only
      split_ifs with harms
      · exact hok harms
      · exact ih
    all_goals exact ih

end

/-- **When the inter-segment timer is early.** As long as every poll that starts the timer has
`dt = 0`, the timer runs out only in a poll with which the polls since have run for the timeout. In
any run over a receive window of at least one message, a poll that starts it with another `dt` makes it
run out before, at once or in the next poll. -/
theorem pollTimer_timely (b : Build) (cfg : Cfg) (seat arq₀ : Arq)
    (hinit : arqInit b cfg seat = .ok arq₀) (hpos : 0 < cfg.interSegmentTimeout) :
    (∀ h, TimerRun b ArmedAtOnce arq₀ h → ∀ dt, ArmedAtOnce h (.poll dt) →
      ¬ Premature b cfg.interSegmentTimeout h dt) ∧
    (0 < u16 cfg.recvWindowSizeInMessages →
      ∀ h, TimerRun b (fun _ _ => True) arq₀ h → ∀ dt, ¬ ArmedAtOnce h (.poll dt) →
        Premature b cfg.interSegmentTimeout h dt ∨
          Premature b cfg.interSegmentTimeout (timerHistStep b h (.poll dt))
            (cfg.interSegmentTimeout - dt)) := by
  constructor
  · rintro h hrun dt hok ⟨hexpires, hlt⟩
    have hcharged := charged_run hinit hrun
    have hearly := early_run (hrun.next (.poll dt) hok)
    rw [← TimerRun.cfg_eq hinit hrun] at hcharged hlt
    have := ((hcharged.expires_iff b dt).mp hexpires).2
    omega
  · intro _ h hrun dt hnot
    have harms : Arms h.arq := by
      by_contra hno
      exact hnot fun h' => absurd h' hno
    have hdt : dt ≠ 0 := fun h0 => hnot fun _ => h0
    rw [← TimerRun.cfg_eq hinit hrun] at hpos ⊢
    exact harms.premature b (by omega) hpos

/-- An instance that has received the first segment of a message of two, and polls. -/
def chargeSample (dts : List Nat) : TimerHist :=
  (firstSegment 0 5 :: dts.map .poll).foldl (timerHistStep ⟨false⟩)
    (.start (freshArq ⟨false⟩ (smallCfg 1 2 2)))

theorem pollTimer_timely_sample :
    (Expires (pollStored (chargeSample [0, 3]).arq) 1 ∧
        ¬ Premature ⟨false⟩ 4 (chargeSample [0, 3]) 1) ∧
      (Premature ⟨false⟩ 4 (chargeSample []) 1 ∨
        Premature ⟨false⟩ 4 (timerHistStep ⟨false⟩ (chargeSample []) (.poll 1)) 3) := by
  obtain ⟨htimely, hearly⟩ := pollTimer_timely ⟨false⟩ (smallCfg 1 2 2) (zeroSeat _) _
    (arqInit_zeroSeat rfl) (by decide)
  refine ⟨⟨by decide +kernel, ?_⟩, ?_⟩
  · exact htimely (chargeSample [0, 3]) (.exec (by decide +kernel)) 1 (by decide +kernel)
  · exact hearly (by decide) (chargeSample []) (.exec (by decide +kernel)) 1 (by decide +kernel)

/-- The poll that stores the first segment of a message of two and has `dt = 4` reports the gap at
once, with a timeout of `4`. -/
theorem first_segment_reported_at_once :
    TimerRun ⟨false⟩ (fun _ _ => True) (freshArq ⟨false⟩ (smallCfg 1 2 2)) (chargeSample []) ∧
      (smallCfg 1 2 2).interSegmentTimeout = 4 ∧
      Premature ⟨false⟩ 4 (chargeSample []) 4 ∧ Reports ⟨false⟩ (chargeSample []).arq 4 0 1 :=
  ⟨.exec (by decide +kernel), rfl, by decide +kernel, by decide +kernel⟩

end NanoArq
