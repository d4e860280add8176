import NanoArq.Poll.NextPoll
import NanoArq.Poll.Resync
import NanoArq.Sender.Progress

/-!
# Reporting gaps

A message of which some segments have arrived and others have not is reported with an ACK that has
its vector: at once when its last segment arrives, else when the inter-segment timer runs out. There
is one timer for the whole window. It belongs to the message whose segment was stored last, and the
last segment of any message stops it.

* `GapKept` excludes the frames that take the timer from a message that still needs it, or are stored
  in the slot of another message.
* `GapSound.step`: in a run of such calls every gap has its ACK flag or the timer.
* `gaps_reported`: and is reported when the timer has run out and no frame arrives.
-/

namespace NanoArq

open Lib

/-! ## Gaps -/

/-- The window holds the message with sequence number `seq`. -/
def Wnd.Holds (w : Wnd) (seq : Nat) : Prop := ∃ i, i < w.size ∧ (w.seq + i) % seqSpace = seq

instance (w : Wnd) (seq : Nat) : Decidable (w.Holds seq) :=
  inferInstanceAs (Decidable (∃ i, i < w.size ∧ _))

/-- Some of the segments of the message are there, and some are not. -/
def Gap (w : Wnd) (seq : Nat) : Prop :=
  (w.msg (seq % w.cap)).curAckVec ≠ 0 ∧
    (w.msg (seq % w.cap)).curAckVec ≠ (w.msg (seq % w.cap)).fullAckVec

instance (w : Wnd) (seq : Nat) : Decidable (Gap w seq) := inferInstanceAs (Decidable (_ ∧ _))

/-- The ACK flag of the message is set, or the inter-segment timer is running for it and has run for
at least `silent` of its `timeout`. -/
def GapCovered (timeout silent : Nat) (rw : RecvWnd) (seq : Nat) : Prop :=
  rw.ack (seq % rw.w.cap) = true ∨
    rw.interSegAckOn = true ∧ rw.interSegAckSeq = seq ∧ rw.interSegAck + silent ≤ timeout

/-- The data frame that the next poll hands to `arq__recv_wnd_frame`. -/
def pollSegment (arq : Arq) : Option FrameRead :=
  (pollRead arq).filter fun r => r.result = .success ∧ r.hdr.seg = true

/-- The receive window of a poll when the received frame is stored. -/
def pollStored (arq : Arq) : RecvWnd :=
  match pollSegment arq with
  | some r => (recvWndFrame arq.recvWnd r.hdr.seqNum r.hdr.segId r.hdr.msgLen r.seg
      arq.cfg.interSegmentTimeout).1
  | none => arq.recvWnd

/-- The next poll accepts a segment of message `seq`. -/
def Receives (arq : Arq) (seq : Nat) : Prop :=
  ∃ r ∈ pollSegment arq, r.hdr.seqNum = seq ∧ (recvWndSlide arq.recvWnd seq).isSome = true

instance (arq : Arq) (seq : Nat) : Decidable (Receives arq seq) :=
  inferInstanceAs (Decidable (∃ r ∈ pollSegment arq, _))

/-- The poll writes a frame that acknowledges `vec` of message `seq`. -/
def Reports (b : Build) (arq : Arq) (dt seq vec : Nat) : Prop :=
  ∃ f ∈ pollFrame (pollWork b arq dt), f.1.ack = true ∧ f.1.ackNum = seq ∧ f.1.curAckVec = vec

instance (b : Build) (arq : Arq) (dt seq vec : Nat) : Decidable (Reports b arq dt seq vec) :=
  inferInstanceAs (Decidable (∃ f ∈ pollFrame (pollWork b arq dt), _))

/-! ## Runs -/

/-- An instance, the messages in its window that have received a segment since an ACK with their vector
was written, and the time that the polls have run since the last segment of each message. -/
structure GapHist where
  arq : Arq
  owed : Nat → Bool
  silent : Nat → Nat

def GapHist.start (arq : Arq) : GapHist where
  arq := arq
  owed _ := false
  silent _ := 0

/-- The time since the last segment of each message when the next poll has stored its frame. -/
def silentStored (h : GapHist) (seq : Nat) : Nat := if Receives h.arq seq then 0 else h.silent seq

def gapHistStep (b : Build) (h : GapHist) (c : Call) : GapHist :=
  let arq := perform b h.arq c
  match c with
  | .poll dt =>
    { arq := arq
      owed := fun seq => decide
        ((h.owed seq = true ∨ Receives h.arq seq) ∧ (pollStored h.arq).w.Holds seq ∧
          ¬ Reports b h.arq dt seq
            ((pollStored h.arq).w.msg (seq % (pollStored h.arq).w.cap)).curAckVec)
      silent := fun seq => silentStored h seq + dt }
  | .reset => .start arq
  | _ => { h with arq := arq }

@[simp] theorem gapHistStep_arq (b : Build) (h : GapHist) (c : Call) :
    (gapHistStep b h c).arq = perform b h.arq c := by
  cases c <;> rfl

/-- The segment `seg` of message `seq` finds, in the window `rw` that has room for it, a slot of its
own, and the timer free. -/
structure GapSafe (owed : Nat → Bool) (rw : RecvWnd) (seq seg : Nat) : Prop where
  agrees : ∀ i, i < rw.w.size → (rw.w.seq + i) % seqSpace % rw.w.cap = (rw.w.seq + i) % rw.w.cap
  own : ∀ i, i < rw.w.size → (rw.w.seq + i) % rw.w.cap = seq % rw.w.cap →
    (rw.w.seq + i) % seqSpace = seq
  timer : (rw.w.msg (seq % rw.w.cap)).curAckVec.testBit seg = false → rw.interSegAckOn = true →
    rw.interSegAckSeq ≠ seq → ¬ (owed rw.interSegAckSeq = true ∧ rw.w.Holds rw.interSegAckSeq ∧
      Gap rw.w rw.interSegAckSeq ∧ rw.ack (rw.interSegAckSeq % rw.w.cap) = false)

instance (owed : Nat → Bool) (rw : RecvWnd) (seq seg : Nat) : Decidable (GapSafe owed rw seq seg) :=
  decidable_of_iff (_ ∧ _ ∧ _) ⟨fun h => ⟨h.1, h.2.1, h.2.2⟩, fun h => ⟨h.1, h.2, h.3⟩⟩

def GapKept (h : GapHist) : Call → Prop
  | .poll _ => ∀ r ∈ pollSegment h.arq, ∀ rw ∈ recvWndSlide h.arq.recvWnd r.hdr.seqNum,
      GapSafe h.owed rw r.hdr.seqNum r.hdr.segId
  | _ => True

instance (h : GapHist) : (c : Call) → Decidable (GapKept h c)
  | .poll _ => inferInstanceAs (Decidable (∀ r ∈ pollSegment h.arq, _))
  | .send _ | .flush | .recv _ | .sendPtrGet | .sendPtrRelease | .recvFill _ | .connect | .reset =>
    inferInstanceAs (Decidable True)

/-! ## Storing a segment -/

section

variable {cap msgLen segLen timeout : Nat} {rw rw' : RecvWnd} {seq seg segCnt : Nat} {p : List UInt8}
  {owed : Nat → Bool}

theorem recvWndStore_covers (rw : RecvWnd) (seq seg segCnt : Nat) (p : List UInt8) (timeout : Nat) :
    GapCovered timeout 0 (recvWndStore rw seq seg segCnt p timeout).1 seq := by
  unfold recvWndStore
  dsimp only
  split_ifs
  · exact Or.inl (Function.update_self ..)
  · exact Or.inl (Function.update_self ..)
  · exact Or.inr ⟨rfl, rfl, le_rfl⟩

/-- What a segment leaves of the messages in other slots. -/
theorem recvWndStore_other {s : Nat} (e : Nat) (hslot : s % rw.w.cap ≠ seq % rw.w.cap) :
    (Gap (recvWndStore rw seq seg segCnt p timeout).1.w s ↔ Gap rw.w s) ∧
      (rw.ack (s % rw.w.cap) = true →
        GapCovered timeout e (recvWndStore rw seq seg segCnt p timeout).1 s) ∧
      (GapCovered timeout e rw s → (rw.w.msg (seq % rw.w.cap)).curAckVec.testBit seg = true →
        GapCovered timeout e (recvWndStore rw seq seg segCnt p timeout).1 s) := by
  have hother : ∀ m, Function.update rw.w.msg (seq % rw.w.cap) m (s % rw.w.cap) =
      rw.w.msg (s % rw.w.cap) := fun m => Function.update_of_ne hslot ..
  have hset : rw.ack (s % rw.w.cap) = true →
      Function.update rw.ack (seq % rw.w.cap) true (s % rw.w.cap) = true :=
    (Function.update_of_ne hslot ..).trans
  unfold recvWndStore
  dsimp only
  split_ifs with hbit hlast
  · exact ⟨Iff.rfl, fun hack => Or.inl (hset hack), fun h _ => h.imp_left hset⟩
  · refine ⟨?_, fun hack => Or.inl (hset hack), fun _ h => absurd h hbit⟩
    simp only [Gap, hother]
  · refine ⟨?_, fun hack => Or.inl hack, fun _ h => absurd h hbit⟩
    simp only [Gap, hother]

theorem recvWndStore_time (htime : rw.interSegAckOn = true → rw.interSegAck ≤ timeout) :
    (recvWndStore rw seq seg segCnt p timeout).1.interSegAckOn = true →
      (recvWndStore rw seq seg segCnt p timeout).1.interSegAck ≤ timeout := by
  unfold recvWndStore
  dsimp only
  split_ifs
  · exact htime
  · intro hon
    cases hon
  · exact fun _ => le_rfl

/-- A segment that finds its slot and the timer free takes the timer from no message that needs it. -/
theorem GapSafe.store (hsafe : GapSafe owed rw seq seg)
    {s e : Nat} (hcovered : owed s = true → Gap rw.w s → s ≠ seq → GapCovered timeout e rw s)
    (hs : owed s = true ∨ s = seq) (he : s = seq → e = 0) (hholds : rw.w.Holds s)
    (hgap : Gap (recvWndStore rw seq seg segCnt p timeout).1.w s) :
    GapCovered timeout e (recvWndStore rw seq seg segCnt p timeout).1 s := by
  by_cases hseq : s = seq
  · rw [he hseq, hseq]
    exact recvWndStore_covers rw seq seg segCnt p timeout
  · have howed := hs.resolve_right hseq
    obtain ⟨i, hi, rfl⟩ := hholds
    have hslot : (rw.w.seq + i) % seqSpace % rw.w.cap ≠ seq % rw.w.cap := by
      rw [hsafe.agrees i hi]
      exact fun h => hseq (hsafe.own i hi h)
    obtain ⟨hsame, hflag, htimer⟩ := @recvWndStore_other timeout rw seq seg segCnt p _ e hslot
    have hold := hsame.mp hgap
    have hcov := hcovered howed hold hseq
    cases hbit : (rw.w.msg (seq % rw.w.cap)).curAckVec.testBit seg with
    | true => exact htimer hcov hbit
    | false =>
      obtain hack | ⟨hon, htarget, -⟩ := hcov
      · exact hflag hack
      · cases hack : rw.ack ((rw.w.seq + i) % seqSpace % rw.w.cap) with
        | true => exact hflag hack
        | false =>
          refine absurd ?_ (hsafe.timer hbit hon (by rwa [htarget]))
          rw [htarget]
          exact ⟨howed, ⟨i, hi, rfl⟩, hold, hack⟩

end

/-! ## One poll -/

/-- Every gap of a message in `owed` is covered, and the timer has at most `timeout` to run. -/
structure GapsCovered (owed : Nat → Prop) (silent : Nat → Nat) (timeout : Nat) (rw : RecvWnd) :
    Prop where
  size_le : rw.w.size ≤ rw.w.cap
  agrees : ∀ i, i < rw.w.size → (rw.w.seq + i) % seqSpace % rw.w.cap = (rw.w.seq + i) % rw.w.cap
  covered : ∀ s, owed s → rw.w.Holds s → Gap rw.w s → GapCovered timeout (silent s) rw s
  time : rw.interSegAckOn = true → rw.interSegAck ≤ timeout

/-- The invariant of a run: between polls the timer has not run out. -/
structure GapSound (timeout : Nat) (h : GapHist) : Prop where
  holds : ∀ s, h.owed s = true → h.arq.recvWnd.w.Holds s
  gaps : GapsCovered (fun s => h.owed s = true) h.silent timeout h.arq.recvWnd
  pos : h.arq.recvWnd.interSegAckOn = true → 0 < h.arq.recvWnd.interSegAck

section

variable {b : Build} {cap msgLen segLen timeout dt : Nat} {arq : Arq} {h : GapHist} {rw : RecvWnd}
  {owed : Nat → Prop} {silent : Nat → Nat}

theorem pollStored_eq (arq : Arq) :
    (recvPollFrame arq.recvWnd arq.recvFrame arq.cfg.checksum frameHdrInit
      arq.cfg.interSegmentTimeout).1 = pollStored arq := by
  unfold pollStored pollSegment pollRead recvPollFrame
  split
  · rw [Option.filter_some]
    dsimp only
    by_cases hseg : (frameRead arq.recvFrame.buf arq.recvFrame.len arq.cfg.checksum).result = .success ∧
        (frameRead arq.recvFrame.buf arq.recvFrame.len arq.cfg.checksum).hdr.seg = true
    · rw [if_pos hseg, if_pos (decide_eq_true hseg)]
    · rw [if_neg hseg, if_neg (by simpa using hseg)]
  · rfl

theorem pollReceived_eq (arq : Arq) (dt : Nat) :
    pollReceived arq dt = recvPollTimer (pollStored arq) dt := by
  rw [pollReceived, pollStored_eq]

theorem pollStored_covers (hs : GapSound h.arq.cfg.interSegmentTimeout h)
    (hb : RecvBounded cap msgLen segLen h.arq.recvWnd) (hc : GapKept h (.poll dt)) :
    GapsCovered (fun s => h.owed s = true ∨ Receives h.arq s) (silentStored h)
      h.arq.cfg.interSegmentTimeout (pollStored h.arq) := by
  obtain ⟨hholds, ⟨hsize, hagrees, hcovered, htime⟩, -⟩ := hs
  have hkept : (∀ s, Receives h.arq s → False) → pollStored h.arq = h.arq.recvWnd →
      GapsCovered (fun s => h.owed s = true ∨ Receives h.arq s) (silentStored h)
        h.arq.cfg.interSegmentTimeout (pollStored h.arq) := by
    intro hnone heq
    rw [heq]
    refine ⟨hsize, hagrees, ?_, htime⟩
    rintro s (howed | hrecv)
    · rw [silentStored, if_neg (hnone s)]
      exact hcovered s howed
    · exact (hnone s hrecv).elim
  cases hseg : pollSegment h.arq with
  | none =>
    refine hkept ?_ ?_
    · rintro s ⟨r, hr, -⟩
      rw [hseg] at hr
      cases hr
    · rw [pollStored, hseg]
  | some r =>
    have hstored : pollStored h.arq = (recvWndFrame h.arq.recvWnd r.hdr.seqNum r.hdr.segId r.hdr.msgLen
        r.seg h.arq.cfg.interSegmentTimeout).1 := by
      rw [pollStored, hseg]
    have hrecv : ∀ s, Receives h.arq s → r.hdr.seqNum = s ∧
        (recvWndSlide h.arq.recvWnd s).isSome = true := by
      rintro s ⟨r', hr', hs'⟩
      rw [hseg] at hr'
      cases hr'
      exact hs'
    cases hslide : recvWndSlide h.arq.recvWnd r.hdr.seqNum with
    | none =>
      refine hkept ?_ ?_
      · intro s hs'
        obtain ⟨rfl, hsome⟩ := hrecv s hs'
        rw [hslide] at hsome
        cases hsome
      · rw [hstored, recvWndFrame, hslide]
    | some rw' =>
      have hsafe := hc r hseg rw' hslide
      have hrest := recvWndSlide_rest hslide
      have hbounded := hb.slide hslide
      obtain ⟨hw, -⟩ := recvWndStore_rest rw' r.hdr.seqNum r.hdr.segId r.hdr.msgLen r.seg
        h.arq.cfg.interSegmentTimeout
      rw [hstored, recvWndFrame, hslide]
      dsimp only
      have hold : ∀ s, h.owed s = true → Gap rw'.w s → s ≠ r.hdr.seqNum →
          GapCovered h.arq.cfg.interSegmentTimeout (silentStored h s) rw' s := by
        intro s howed hgap hne
        have hcov := hcovered s howed (hholds s howed)
        rw [silentStored, if_neg fun h' => hne (hrecv s h').1.symm]
        rw [hrest] at hgap ⊢
        exact hcov hgap
      refine ⟨?_, ?_, ?_, ?_⟩
      · rw [hw]
        exact hbounded.size_le
      · rw [hw]
        exact hsafe.agrees
      · intro s hs' hin hgap
        rw [hw] at hin
        refine hsafe.store (hold s) (hs'.imp_right fun h' => (hrecv s h').1.symm) ?_ hin hgap
        rintro rfl
        exact if_pos ⟨r, hseg, rfl, by rw [hslide]; rfl⟩
      · refine recvWndStore_time ?_
        rw [hrest]
        exact htime

/-- The timer runs out into an ACK flag. -/
theorem GapCovered.step {s e : Nat} (h : GapCovered timeout e rw s) (dt : Nat) :
    GapCovered timeout (e + dt) (recvPollTimer rw dt) s := by
  unfold recvPollTimer
  simp only [subSat_eq]
  split_ifs with hon hout
  · refine Or.inl ?_
    dsimp only
    by_cases hslot : s % rw.w.cap = rw.interSegAckSeq % rw.w.cap
    · rw [hslot, Function.update_self]
    · rw [Function.update_of_ne hslot]
      refine h.resolve_right ?_
      rintro ⟨-, rfl, -⟩
      exact hslot rfl
  · refine h.imp_right ?_
    rintro ⟨-, hs, hle⟩
    refine ⟨hon, hs, ?_⟩
    dsimp only
    omega
  · exact Or.inl (h.resolve_right fun h' => hon h'.1)

theorem recvPollTimer_left (rw : RecvWnd) (dt : Nat)
    (hon : (recvPollTimer rw dt).interSegAckOn = true) :
    rw.interSegAckOn = true ∧ (recvPollTimer rw dt).interSegAck = rw.interSegAck - dt := by
  unfold recvPollTimer at hon ⊢
  split_ifs at hon ⊢ with hold
  · exact ⟨hold, subSat_eq _ _⟩
  · exact absurd hon hold

theorem GapsCovered.step (hs : GapsCovered owed silent timeout rw) (dt : Nat) :
    GapsCovered owed (fun s => silent s + dt) timeout (recvPollTimer rw dt) := by
  obtain ⟨hsize, hagrees, hcovered, htime⟩ := hs
  have hrest := recvPollTimer_w rw dt
  have hw : (recvPollTimer rw dt).w = rw.w := by rw [hrest]
  refine ⟨?_, ?_, ?_, ?_⟩
  · rw [hw]
    exact hsize
  · rw [hw]
    exact hagrees
  · intro s howed hholds hgap
    rw [hw] at hholds hgap
    exact (hcovered s howed hholds hgap).step dt
  · intro hon
    obtain ⟨hold, hleft⟩ := recvPollTimer_left rw dt hon
    rw [hleft]
    exact (Nat.sub_le _ _).trans (htime hold)

theorem GapsCovered.mono (hs : GapsCovered owed silent timeout rw) {owed' : Nat → Prop}
    (h : ∀ s, owed' s → owed s) : GapsCovered owed' silent timeout rw :=
  ⟨hs.size_le, hs.agrees, fun s hs' => hs.covered s (h s hs'), hs.time⟩

theorem pollWork_recvWnd_rest (b : Build) (arq : Arq) (dt : Nat) :
    (pollWork b arq dt).recvWnd =
      { pollReceived arq dt with ack := (pollWork b arq dt).recvWnd.ack } := by
  rw [pollWork_recvWnd]
  split
  · rw [recvPollAck_recvWnd]
    exact recvWndAck_w _
  · rfl

theorem pollReceived_w (arq : Arq) (dt : Nat) : (pollReceived arq dt).w = (pollStored arq).w := by
  rw [pollReceived_eq, recvPollTimer_w]

/-- An ACK flag that a poll clears has been reported. -/
theorem GapsCovered.poll (hs : GapsCovered owed silent timeout (pollReceived arq dt)) :
    GapsCovered (fun s => owed s ∧ ¬ Reports b arq dt s
        ((pollReceived arq dt).w.msg (s % (pollReceived arq dt).w.cap)).curAckVec) silent timeout
      (pollWork b arq dt).recvWnd := by
  have hrest := pollWork_recvWnd_rest b arq dt
  obtain ⟨hsize, hagrees, hcovered, htime⟩ := hs
  have hcleared := fun slot => @pollAck_carried b arq dt slot
  generalize (pollWork b arq dt).recvWnd = rw' at hrest hcleared ⊢
  rw [hrest] at hcleared ⊢
  refine ⟨hsize, hagrees, ?_, htime⟩
  rintro s ⟨howed, hnot⟩ ⟨i, hi, rfl⟩ hgap
  dsimp only at hi
  obtain hack | htimer := hcovered _ howed ⟨i, hi, rfl⟩ hgap
  · refine Or.inl ?_
    cases hflag : rw'.ack ((((pollReceived arq dt).w.seq + i) % seqSpace) %
        (pollReceived arq dt).w.cap) with
    | true => rfl
    | false =>
      obtain ⟨hd, payload, hframe, hcarries⟩ := hcleared _ hack hflag
      obtain ⟨i', hi', hslot, hnum⟩ := hcarries.ackNum
      refine absurd ⟨_, hframe, hcarries.ack, ?_, hcarries.curAckVec⟩ hnot
      dsimp only at hi' hslot hnum
      rw [hagrees i hi] at hslot
      rw [hnum, ring_inj (by omega) (by omega) hslot]
  · exact Or.inr htimer

theorem GapSound.poll (hs : GapSound h.arq.cfg.interSegmentTimeout h)
    (hb : RecvBounded cap msgLen segLen h.arq.recvWnd) (hc : GapKept h (.poll dt)) :
    GapSound h.arq.cfg.interSegmentTimeout (gapHistStep b h (.poll dt)) := by
  have hrest : (perform b h.arq (.poll dt)).recvWnd = _ := pollWork_recvWnd_rest b h.arq dt
  have hgaps := (pollStored_covers hs hb hc).step dt
  rw [← pollReceived_eq] at hgaps
  have howed : ∀ s, (gapHistStep b h (.poll dt)).owed s = true ↔
      (h.owed s = true ∨ Receives h.arq s) ∧ (pollStored h.arq).w.Holds s ∧
        ¬ Reports b h.arq dt s
          ((pollStored h.arq).w.msg (s % (pollStored h.arq).w.cap)).curAckVec := by
    intro s
    exact decide_eq_true_iff
  refine ⟨?_, ?_, ?_⟩
  · intro s hs'
    rw [gapHistStep_arq, hrest]
    dsimp only
    rw [pollReceived_w]
    exact ((howed s).mp hs').2.1
  · rw [gapHistStep_arq]
    refine (hgaps.poll (b := b)).mono ?_
    intro s hs'
    obtain ⟨hseg, -, hnot⟩ := (howed s).mp hs'
    rw [← pollReceived_w h.arq dt] at hnot
    exact ⟨hseg, hnot⟩
  · rw [gapHistStep_arq, hrest]
    dsimp only
    rw [pollReceived_eq]
    exact recvPollTimer_pos _ _

theorem GapSound.reset (b : Build) (arq : Arq) : GapSound timeout (.start (rstArq b arq)) where
  holds _ h := by cases h
  gaps :=
    { size_le := Nat.zero_le _
      agrees := fun _ hi => absurd hi (Nat.not_lt_zero _)
      covered := fun _ h => by cases h
      time := fun h => by cases h }
  pos h := by cases h

/-- Reading makes no gap. -/
theorem GapSound.recv (hs : GapSound timeout h) (n : Nat) :
    GapSound timeout { h with arq := { h.arq with recvWnd := (recvWndRecv h.arq.recvWnd n).1 } } := by
  obtain ⟨hholds, ⟨hsize, hagrees, hcovered, htime⟩, hpos⟩ := hs
  have hslot := recvWndRecv_slot h.arq.recvWnd n
  have hrest := recvWndRecv_rest h.arq.recvWnd n
  generalize (recvWndRecv h.arq.recvWnd n).1 = rw at hslot hrest ⊢
  rw [hrest]
  refine ⟨hholds, ⟨hsize, hagrees, ?_, htime⟩, hpos⟩
  intro s howed hin hgap
  refine hcovered s howed hin ?_
  unfold Gap at hgap ⊢
  dsimp only at hgap
  obtain hsame | hempty := hslot (s % h.arq.recvWnd.w.cap)
  · rwa [hsame] at hgap
  · rw [hempty] at hgap
    exact absurd rfl hgap.1

theorem GapSound.step (hs : GapSound h.arq.cfg.interSegmentTimeout h)
    (hb : RecvBounded cap msgLen segLen h.arq.recvWnd) {c : Call} (hc : GapKept h c) :
    GapSound h.arq.cfg.interSegmentTimeout (gapHistStep b h c) := by
  have hother : (∀ n, c ≠ .recv n) → (∀ dt, c ≠ .poll dt) → c ≠ .reset →
      GapSound h.arq.cfg.interSegmentTimeout { h with arq := perform b h.arq c } := by
    intro hrecv hpoll hreset
    have hw := perform_recvWnd b h.arq hrecv hpoll hreset
    obtain ⟨hholds, hgaps, hpos⟩ := hs
    refine ⟨?_, ?_, ?_⟩ <;> rw [hw] <;> assumption
  cases c with
  | recv n =>
    change GapSound h.arq.cfg.interSegmentTimeout { h with arq := (arqRecv h.arq n).1 }
    unfold arqRecv
    split
    · exact hs
    · exact hs.recv n
  | poll dt => exact hs.poll hb hc
  | reset => exact .reset b h.arq
  | send | flush | sendPtrGet | sendPtrRelease | recvFill | connect =>
    exact hother (by simp) (by simp) (by simp)

end

/-! ## Polls without a frame -/

/-- A poll of a driver that takes the frames of the instance and has none for it. -/
def quietPoll (b : Build) (arq : Arq) (dt : Nat) : Arq := (backendPoll b (takeFrame arq) dt).1

/-- One of the polls acknowledges `vec` of message `seq`. -/
def ReportedIn (b : Build) (seq vec : Nat) : List Nat → Arq → Prop
  | [], _ => False
  | dt :: dts, arq =>
    Reports b (takeFrame arq) dt seq vec ∨ ReportedIn b seq vec dts (quietPoll b arq dt)

instance ReportedIn.decidable (b : Build) (seq vec : Nat) :
    ∀ (dts : List Nat) (arq : Arq), Decidable (ReportedIn b seq vec dts arq)
  | [], _ => inferInstanceAs (Decidable False)
  | dt :: dts, arq =>
    have := ReportedIn.decidable b seq vec dts (quietPoll b arq dt)
    inferInstanceAs (Decidable (_ ∨ _))

/-- Nothing has arrived since the receive window was `w`. -/
structure Quiet (w : Wnd) (arq : Arq) : Prop where
  acc : arq.recvFrame.state = .accumulating
  wnd : arq.recvWnd.w = w

section

variable {b : Build} {w : Wnd} {arq : Arq} {rw : RecvWnd} {dt i : Nat}

theorem recvWndAck_first (hi : i < rw.w.size) (hack : rw.ack ((rw.w.seq + i) % rw.w.cap) = true) :
    ∃ j, j ≤ i ∧ rw.ack ((rw.w.seq + j) % rw.w.cap) = true ∧
      (∀ k, k < j → rw.ack ((rw.w.seq + k) % rw.w.cap) = false) ∧
      (recvWndAck rw).1 =
        { rw with ack := Function.update rw.ack ((rw.w.seq + j) % rw.w.cap) false } := by
  unfold recvWndAck
  cases hfind : (List.range rw.w.size).find? (fun i => rw.ack ((rw.w.seq + i) % rw.w.cap)) with
  | none =>
    have := List.find?_eq_none.mp hfind i (List.mem_range.mpr hi)
    exact absurd hack this
  | some j =>
    obtain ⟨hj, -, hfirst⟩ := List.find?_range_eq_some.mp hfind
    refine ⟨j, ?_, hj, fun k hk => by simpa using hfirst k hk, rfl⟩
    by_contra hlt
    have := hfirst i (by omega)
    rw [hack] at this
    cases this

theorem takeFrame_recvWnd (arq : Arq) : (takeFrame arq).recvWnd = arq.recvWnd := by
  have hget := perform_recvWnd ⟨false⟩ arq (c := .sendPtrGet) (by simp) (by simp) (by simp)
  have hrelease := perform_recvWnd ⟨false⟩ (perform ⟨false⟩ arq .sendPtrGet) (c := .sendPtrRelease)
    (by simp) (by simp) (by simp)
  exact hrelease.trans hget

theorem Quiet.received (hq : Quiet w arq) (dt : Nat) :
    pollReceived (takeFrame arq) dt = recvPollTimer arq.recvWnd dt := by
  have hnone : pollSegment (takeFrame arq) = none := by
    rw [pollSegment, pollRead_of_accumulating]
    · rfl
    · rw [(takeFrame_spec arq).2.2.2.1]
      exact hq.acc
  rw [pollReceived_eq, pollStored, hnone]
  dsimp only
  rw [takeFrame_recvWnd]

theorem Quiet.rest (hq : Quiet w arq) (b : Build) (dt : Nat) :
    (quietPoll b arq dt).recvWnd =
      { recvPollTimer arq.recvWnd dt with ack := (quietPoll b arq dt).recvWnd.ack } := by
  have hrest := pollWork_recvWnd_rest b (takeFrame arq) dt
  rw [hq.received] at hrest
  exact hrest

theorem Quiet.poll (hq : Quiet w arq) (b : Build) (dt : Nat) : Quiet w (quietPoll b arq dt) := by
  refine ⟨backendPoll_accumulating _ _ _, ?_⟩
  rw [hq.rest, recvPollTimer_w]
  exact hq.wnd

/-- The poll reports the first message of the window that has its ACK flag set. -/
theorem Quiet.first (hq : Quiet w arq) (hsize : w.size ≤ w.cap) (hi : i < w.size)
    (hack : (recvPollTimer arq.recvWnd dt).ack ((w.seq + i) % w.cap) = true) :
    ∃ j, j ≤ i ∧ (recvPollTimer arq.recvWnd dt).ack ((w.seq + j) % w.cap) = true ∧
      (∀ k, k < j → (recvPollTimer arq.recvWnd dt).ack ((w.seq + k) % w.cap) = false) ∧
      (quietPoll b arq dt).recvWnd.ack =
        Function.update (recvPollTimer arq.recvWnd dt).ack ((w.seq + j) % w.cap) false ∧
      Reports b (takeFrame arq) dt ((w.seq + j) % seqSpace) (w.msg ((w.seq + j) % w.cap)).curAckVec := by
  have hw : (recvPollTimer arq.recvWnd dt).w = w := by
    rw [recvPollTimer_w]
    exact hq.wnd
  have hreceived := hq.received dt
  have hrest : (pollWork b (takeFrame arq) dt).recvWnd = _ := hq.rest b dt
  generalize recvPollTimer arq.recvWnd dt = rw₁ at *
  subst hw
  obtain ⟨j, hji, hj, hfirst, hclear⟩ := recvWndAck_first hi hack
  have hwnd : (pollWork b (takeFrame arq) dt).recvWnd =
      { rw₁ with ack := Function.update rw₁.ack ((rw₁.w.seq + j) % rw₁.w.cap) false } := by
    rw [pollWork_recvWnd, if_pos (takeFrame_spec arq).1, hreceived, recvPollAck_recvWnd, hclear]
  refine ⟨j, hji, hj, hfirst, ?_, ?_⟩
  · change (pollWork b (takeFrame arq) dt).recvWnd.ack = _
    rw [hwnd]
  · obtain ⟨hd, payload, hframe, hcarries⟩ := @pollAck_carried b (takeFrame arq) dt
      ((rw₁.w.seq + j) % rw₁.w.cap) (by rw [hreceived]; exact hj)
      (by rw [hwnd]; exact Function.update_self ..)
    obtain ⟨i', hi', hslot, hnum⟩ := hcarries.ackNum
    have hvec := hcarries.curAckVec
    rw [hwnd] at hi' hslot hnum hvec
    refine ⟨_, hframe, hcarries.ack, ?_, hvec⟩
    dsimp only at hi' hslot hnum ⊢
    rw [hnum, ring_inj (by omega) (by omega) hslot]

/-- Messages with their ACK flag set are reported one after the other. -/
theorem Quiet.flagged (hsize : w.size ≤ w.cap) (hi : i < w.size) :
    ∀ (dts : List Nat) (arq : Arq) (c : Nat), Quiet w arq → arq.recvWnd.interSegAckOn = false →
      arq.recvWnd.ack ((w.seq + i) % w.cap) = true →
      (∀ k, k < c → arq.recvWnd.ack ((w.seq + k) % w.cap) = false) → i < c + dts.length →
      ReportedIn b ((w.seq + i) % seqSpace) (w.msg ((w.seq + i) % w.cap)).curAckVec dts arq := by
  intro dts
  induction dts with
  | nil =>
    intro arq c _ _ hack hnone hlt
    rw [hnone i (by simpa using hlt)] at hack
    cases hack
  | cons dt dts ih =>
    intro arq c hq hoff hack hnone hlt
    have htimer : recvPollTimer arq.recvWnd dt = arq.recvWnd := by
      rw [recvPollTimer, if_neg (by rw [hoff]; decide)]
    have hack' : (recvPollTimer arq.recvWnd dt).ack ((w.seq + i) % w.cap) = true := by
      rwa [htimer]
    obtain ⟨j, hji, hj, hfirst, hclear, hreports⟩ :=
      @Quiet.first b w arq dt i hq hsize hi hack'
    have hrest := hq.rest b dt
    rw [htimer] at hj hfirst hclear hrest
    by_cases heq : j = i
    · rw [← heq]
      exact Or.inl hreports
    · have hcj : c ≤ j := by
        by_contra hjc
        rw [hnone j (by omega)] at hj
        cases hj
      refine Or.inr (ih _ (j + 1) (hq.poll b dt) ?_ ?_ ?_ ?_)
      · rw [hrest]
        exact hoff
      · rw [hclear, Function.update_of_ne, hack]
        intro hslot
        exact heq (ring_inj (by omega) (by omega) hslot.symm)
      · intro k hk
        rw [hclear]
        by_cases hkj : k = j
        · rw [hkj, Function.update_self]
        · rw [Function.update_of_ne, hfirst k (by omega)]
          intro hslot
          exact hkj (ring_inj (by omega) (by omega) hslot)
      · rw [List.length_cons] at hlt
        omega

/-- A message that has its ACK flag or the timer is reported when the timer has run out and each
message before it can have been. -/
theorem Quiet.covered (hsize : w.size ≤ w.cap) (hi : i < w.size)
    (hslot : (w.seq + i) % seqSpace % w.cap = (w.seq + i) % w.cap) {dts' : List Nat}
    (hlen : i < dts'.length) {timeout : Nat} :
    ∀ (dts : List Nat) (arq : Arq) (e : Nat), Quiet w arq →
      (arq.recvWnd.interSegAckOn = true →
        0 < arq.recvWnd.interSegAck ∧ arq.recvWnd.interSegAck ≤ dts.sum) →
      GapCovered timeout e arq.recvWnd ((w.seq + i) % seqSpace) →
      ReportedIn b ((w.seq + i) % seqSpace) (w.msg ((w.seq + i) % w.cap)).curAckVec (dts ++ dts')
        arq := by
  intro dts
  induction dts with
  | nil =>
    intro arq e hq htime hcov
    have hoff : arq.recvWnd.interSegAckOn = false := by
      cases hon : arq.recvWnd.interSegAckOn with
      | false => rfl
      | true =>
        have := htime hon
        rw [List.sum_nil] at this
        omega
    have hack := hcov.resolve_right (by simp [hoff])
    rw [hq.wnd, hslot] at hack
    exact Quiet.flagged hsize hi dts' arq 0 hq hoff hack (fun k hk => absurd hk (Nat.not_lt_zero k))
      (by omega)
  | cons dt dts ih =>
    intro arq e hq htime hcov
    have hrest := hq.rest b dt
    have htime' : (quietPoll b arq dt).recvWnd.interSegAckOn = true →
        0 < (quietPoll b arq dt).recvWnd.interSegAck ∧
          (quietPoll b arq dt).recvWnd.interSegAck ≤ dts.sum := by
      rw [hrest]
      intro hon
      obtain ⟨hold, hleft⟩ := recvPollTimer_left _ _ hon
      refine ⟨recvPollTimer_pos _ _ hon, ?_⟩
      have := (htime hold).2
      rw [List.sum_cons] at this
      dsimp only
      omega
    have hw : (recvPollTimer arq.recvWnd dt).w = w := by
      rw [recvPollTimer_w]
      exact hq.wnd
    obtain hack | hon := hcov.step dt
    · rw [hw, hslot] at hack
      obtain ⟨j, hji, hj, -, hclear, hreports⟩ := hq.first (b := b) hsize hi hack
      by_cases heq : j = i
      · rw [← heq]
        exact Or.inl hreports
      · refine Or.inr (ih _ (e + dt) (hq.poll b dt) htime' (Or.inl ?_))
        rw [hclear, (hq.poll b dt).wnd, hslot, Function.update_of_ne, hack]
        intro hslots
        exact heq (ring_inj (by omega) (by omega) hslots.symm)
    · refine Or.inr (ih _ (e + dt) (hq.poll b dt) htime' (Or.inr ?_))
      rw [hrest]
      exact hon

end

/-! ## The theorem -/

/-- The histories of an instance, the calls of which satisfy `ok`. -/
abbrev GapRun (b : Build) (ok : GapHist → Call → Prop) (arq₀ : Arq) (h : GapHist) : Prop :=
  Run (gapHistStep b) ok (.start arq₀) h

section

variable {b : Build} {cfg : Cfg} {seat arq₀ : Arq} {h : GapHist}

theorem GapRun.arq {ok : GapHist → Call → Prop} (hrun : GapRun b ok arq₀ h) :
    Run (perform b) (fun _ _ => True) arq₀ h.arq := by
  refine Run.map GapHist.arq ?_ hrun
  intro h c _
  rw [gapHistStep_arq]
  exact .next .start c trivial

theorem gapSound_run (hinit : arqInit b cfg seat = .ok arq₀) (hrun : GapRun b GapKept arq₀ h) :
    GapSound cfg.interSegmentTimeout h := by
  have harq₀ := arqInit_ok hinit
  induction hrun with
  | start =>
    rw [harq₀]
    exact .reset b _
  | @next h hrun c hc ih =>
    have harq := GapRun.arq hrun
    obtain ⟨seat', hrecv⟩ := instance_recvRun hinit harq
    have hcfg : h.arq.cfg = cfg := by
      rw [run_cfg harq, harq₀]
      rfl
    rw [← hcfg] at ih ⊢
    exact ih.step hrecv.bounded hc

end

/-- **Every gap is reported.** In a run in which no frame takes the inter-segment timer from a message
that needs it, each message of the window that has some but not all of its segments, and has received
one since it was last acknowledged, has its ACK flag or the timer. It has the flag when its segments
have been missing for the timeout, and polls without frames then acknowledge it with its vector. -/
theorem gaps_reported (b : Build) (cfg : Cfg) (seat arq₀ : Arq)
    (hinit : arqInit b cfg seat = .ok arq₀) (h : GapHist) (hrun : GapRun b GapKept arq₀ h)
    (seq : Nat) (howed : h.owed seq = true) (hgap : Gap h.arq.recvWnd.w seq) :
    (h.arq.recvWnd.ack (seq % h.arq.recvWnd.w.cap) = true ∨
        h.arq.recvWnd.interSegAckOn = true ∧ h.arq.recvWnd.interSegAckSeq = seq) ∧
      (cfg.interSegmentTimeout ≤ h.silent seq →
        h.arq.recvWnd.ack (seq % h.arq.recvWnd.w.cap) = true) ∧
      (h.arq.recvFrame.state = .accumulating →
        ∀ dts dts' : List Nat, cfg.interSegmentTimeout ≤ dts.sum →
          h.arq.recvWnd.w.size ≤ dts'.length →
          ReportedIn b seq (h.arq.recvWnd.w.msg (seq % h.arq.recvWnd.w.cap)).curAckVec (dts ++ dts')
            h.arq) := by
  obtain ⟨hholds, hgaps, hpos⟩ := gapSound_run hinit hrun
  obtain ⟨i, hi, rfl⟩ := hholds seq howed
  have hcov := hgaps.covered _ howed (hholds _ howed) hgap
  refine ⟨hcov.imp_right fun h' => ⟨h'.1, h'.2.1⟩, ?_, ?_⟩
  · intro hsilent
    refine hcov.resolve_right ?_
    rintro ⟨hon, -, hle⟩
    have := hpos hon
    omega
  · intro hacc dts dts' hsum hlen
    have hslot := hgaps.agrees i hi
    rw [hslot]
    refine Quiet.covered hgaps.size_le hi hslot (by omega) dts h.arq _ ⟨hacc, rfl⟩ ?_ hcov
    intro hon
    exact ⟨hpos hon, (hgaps.time hon).trans hsum⟩

/-- The first segment of message `seq`, which has two segments of one byte. -/
def firstSegment (seq : Nat) (x : UInt8) : Call :=
  .recvFill (Outgoing.bytes (smallCfg 1 2 2).checksum
    ⟨{ sampleDataHdr with seqNum := seq, msgLen := 2 }, [x], fun _ => 0⟩)

/-- An instance that has received the first segment of each of the given messages. -/
def gapSample (seqs : List Nat) : GapHist :=
  (seqs.flatMap fun seq => [firstSegment seq 5, .poll 0]).foldl (gapHistStep ⟨false⟩)
    (.start (freshArq ⟨false⟩ (smallCfg 1 2 2)))

theorem gaps_reported_sample :
    (gapSample [0]).owed 0 = true ∧ Gap (gapSample [0]).arq.recvWnd.w 0 ∧
      ReportedIn ⟨false⟩ 0 1 ([3, 1] ++ [0]) (gapSample [0]).arq :=
  ⟨by decide +kernel, by decide +kernel,
    (gaps_reported ⟨false⟩ (smallCfg 1 2 2) (zeroSeat _) _ (arqInit_zeroSeat rfl) (gapSample [0])
      (.exec (by decide +kernel)) 0 (by decide +kernel) (by decide +kernel)).2.2 (by decide +kernel)
      [3, 1] [0] (by decide) (by decide +kernel)⟩

/-- The first segments of two messages arrive, and the second ones are lost. Only the second gap is
reported. -/
theorem interleaved_gap_unreported :
    GapRun ⟨false⟩ (fun _ _ => True) (freshArq ⟨false⟩ (smallCfg 1 2 2)) (gapSample [0, 1]) ∧
      (gapSample [0, 1]).owed 0 = true ∧ Gap (gapSample [0, 1]).arq.recvWnd.w 0 ∧
      (gapSample [0, 1]).arq.recvWnd.ack 0 = false ∧
      (gapSample [0, 1]).arq.recvWnd.interSegAckSeq = 1 ∧
      (gapSample [0, 1]).arq.recvFrame.state = .accumulating ∧
      ReportedIn ⟨false⟩ 1 1 [4, 0, 0] (gapSample [0, 1]).arq ∧
      ¬ ReportedIn ⟨false⟩ 0 1 [4, 4, 4] (gapSample [0, 1]).arq :=
  ⟨.exec (by decide +kernel), by decide +kernel⟩

end NanoArq
