import NanoArq.Codec.Stream
import NanoArq.Poll.Stages

/-!
# Resynchronisation of the receive path

A driver offers the chunks of a byte stream to `arq_backend_recv_fill`, offers again what a
call left, and polls whenever `ARQ_OK_POLL_REQUIRED` is returned (`pumpStep`). On the stream
`g ++ 0 :: F`, where `F` is a written frame, it consumes all bytes and decodes `F` last exactly
when no run of `g` without a zero fills the receive frame (`resync_iff_short_runs`).

A longer run leaves `arq__recv_frame_fill` with a full buffer in the state `accumulating`: it
returns `0` from then on, and no poll is ever required.

* `PumpOk.step`: the invariant of a run that gets through, and its measure.
* `PumpStuck.step`: the invariant of a run that does not.
-/

namespace NanoArq

open Lib

/-! ## The driver -/

/-- The driver: the instance, the chunks not yet consumed, and the frames polled so far, each as
it was when the poll began. -/
structure Pump where
  arq : Arq
  todo : List (List UInt8)
  polled : List RecvFrame

/-- One call of `arq_backend_recv_fill`, and a poll if it asks for one. -/
def pumpStep (b : Build) (dts : Nat → Nat) (p : Pump) : Pump :=
  match p.todo with
  | [] => p
  | [] :: chunks => { p with todo := chunks }
  | (x :: xs) :: chunks =>
    let r := backendRecvFill p.arq (x :: xs)
    let todo := (x :: xs).drop r.2.2 :: chunks
    if r.2.1 = .okPollRequired then
      { arq := (backendPoll b r.1 (dts p.polled.length)).1
        todo := todo
        polled := p.polled ++ [r.1.recvFrame] }
    else { p with arq := r.1, todo := todo }

/-- What `arq__frame_read` returns for a polled frame. -/
def RecvFrame.outcome (checksum : Checksum) (f : RecvFrame) :
    FrameReadResult × FrameHdr × List UInt8 :=
  (frameRead f.buf f.len checksum).outcome

/-- After finitely many calls every byte is consumed, every decoding has ended, and the last
frame decoded is `(h, seg)`. -/
def Resynchronises (b : Build) (dts : Nat → Nat) (arq : Arq) (chunks : List (List UInt8))
    (h : FrameHdr) (seg : List UInt8) : Prop :=
  ∃ n, ((pumpStep b dts)^[n] ⟨arq, chunks, []⟩).todo = [] ∧
    (∀ f ∈ ((pumpStep b dts)^[n] ⟨arq, chunks, []⟩).polled, DecodeEnds f) ∧
    ((pumpStep b dts)^[n] ⟨arq, chunks, []⟩).polled.getLast?.map
      (RecvFrame.outcome arq.cfg.checksum) = some (.success, h, seg)

/-- Every run of `g` without a zero is shorter than `cap`. -/
def ShortRuns (cap : Nat) (g : List UInt8) : Prop :=
  ∀ run, run <:+: g → (∀ b ∈ run, b ≠ 0) → run.length < cap

theorem ShortRuns.of_sub {cap : Nat} {g g' : List UInt8} (h : ShortRuns cap g) (hg : g' <:+: g) :
    ShortRuns cap g' :=
  fun run hrun hnz => h run (hrun.trans hg) hnz

/-! ## The first zero of a stream -/

/-- Where the first zero of `g ++ 0 :: tail` lies. -/
theorem first_zero_cases {x r g tail : List UInt8} (hx : ∀ b ∈ x, b ≠ 0)
    (h : x ++ 0 :: r = g ++ 0 :: tail) :
    (g = x ∧ r = tail) ∨ ∃ g', g = x ++ 0 :: g' ∧ r = g' ++ 0 :: tail := by
  obtain ⟨g', rfl, hr⟩ := split_before_zero hx h
  cases g' with
  | nil => exact Or.inl ⟨by simp, (List.cons.inj hr).2⟩
  | cons b g' =>
    obtain ⟨rfl, rfl⟩ := List.cons.inj hr
    exact Or.inr ⟨g', rfl, rfl⟩

/-- A run without a zero lies behind the first zero of its stream, when it is longer than what
precedes that zero. -/
theorem run_behind_zero {x r l run y : List UInt8} (hrun : ∀ b ∈ run, b ≠ 0)
    (hlen : x.length < run.length) (h : x ++ 0 :: r = l ++ (run ++ y)) :
    ∃ l', r = l' ++ (run ++ y) := by
  have hhead : ∀ w z : List UInt8, w ≠ [] → (∀ b ∈ w, b ≠ 0) → 0 :: r ≠ w ++ z := by
    intro w z hw hnz heq
    obtain ⟨b, w, rfl⟩ := List.exists_cons_of_ne_nil hw
    obtain ⟨rfl, -⟩ := List.cons.inj heq
    exact hnz 0 List.mem_cons_self rfl
  rcases List.append_eq_append_iff.mp h with ⟨a, rfl, ha⟩ | ⟨c, rfl, hc⟩
  · cases a with
    | nil =>
      refine absurd ha (hhead run y ?_ hrun)
      rintro rfl
      simp at hlen
    | cons b a =>
      obtain ⟨rfl, rfl⟩ := List.cons.inj ha
      exact ⟨a, rfl⟩
  · exfalso
    rw [List.length_append] at hlen
    rcases List.append_eq_append_iff.mp hc with ⟨w, rfl, -⟩ | ⟨w, rfl, hw⟩
    · rw [List.length_append] at hlen
      omega
    · refine hhead w y ?_ (fun b hb => hrun b (List.mem_append_right _ hb)) hw
      rintro rfl
      simp only [List.append_nil] at hlen
      omega

/-! ## One call -/

section

variable {b : Build} {dts : Nat → Nat} {p : Pump} {pre : List UInt8}

/-- What a call with a nonempty chunk does to an accumulating instance. -/
theorem pumpStep_cases (hacc : Accumulating p.arq.recvFrame pre) {x : UInt8} {xs : List UInt8}
    {chunks : List (List UInt8)} (htodo : p.todo = (x :: xs) :: chunks) :
    (Accumulating (pumpStep b dts p).arq.recvFrame (pre ++ x :: xs) ∧
        (pumpStep b dts p).todo = [] :: chunks ∧ (pumpStep b dts p).polled = p.polled) ∨
      (∃ a c f, x :: xs = a ++ 0 :: c ∧ (∀ b ∈ pre ++ a, b ≠ 0) ∧
        (pre ++ a).length < p.arq.recvFrame.cap ∧ FullFrame f (pre ++ a ++ [0]) ∧
        Accumulating (pumpStep b dts p).arq.recvFrame [] ∧
        (pumpStep b dts p).todo = c :: chunks ∧ (pumpStep b dts p).polled = p.polled ++ [f]) ∨
      ∃ a c, x :: xs = a ++ c ∧ c ≠ [] ∧ (pre ++ a).length = p.arq.recvFrame.cap ∧
        Accumulating (pumpStep b dts p).arq.recvFrame (pre ++ a) ∧
        (pumpStep b dts p).todo = c :: chunks ∧ (pumpStep b dts p).polled = p.polled := by
  have hcap := hacc.cap
  simp only [pumpStep, htodo, backendRecvFill]
  rcases recvFrameFill_cases hacc (x :: xs) with ⟨hacc', hdrop⟩ | ⟨a, c, hchunk, ha, hlen, hfull,
    hdrop⟩ | ⟨a, c, hchunk, hc, hlen, hacc', hdrop⟩
  · refine Or.inl ?_
    simp only [if_neg hacc'.not_full, hdrop, reduceCtorEq, if_false]
    exact ⟨hacc', trivial, trivial⟩
  · refine Or.inr (Or.inl ⟨a, c, (recvFrameFill p.arq.recvFrame (x :: xs)).1, hchunk, ?_, ?_, ?_, ?_⟩)
    · intro d hd
      rcases List.mem_append.mp hd with hd | hd
      · exact hacc.nonzero d hd
      · exact ha d hd
    · rw [List.length_append]
      exact hlen
    · rw [List.append_assoc]
      exact hfull
    · simp only [if_pos hfull.state, if_true, hdrop]
      refine ⟨?_, trivial, trivial⟩
      rw [backendPoll_recvFrame, pollWork_recvFrame, if_pos hfull.state]
      apply accumulating_rst
      simp only [recvFrameFill_cap]
      exact hcap
  · refine Or.inr (Or.inr ⟨a, c, hchunk, hc, hlen, ?_⟩)
    simp only [if_neg hacc'.not_full, hdrop, reduceCtorEq, if_false]
    exact ⟨hacc', trivial, trivial⟩

theorem pumpStep_frame (b : Build) (dts : Nat → Nat) (p : Pump) :
    (pumpStep b dts p).arq.recvFrame.cap = p.arq.recvFrame.cap ∧
      (pumpStep b dts p).arq.cfg = p.arq.cfg := by
  have hfill : ∀ data, (backendRecvFill p.arq data).1.recvFrame.cap = p.arq.recvFrame.cap ∧
      (backendRecvFill p.arq data).1.cfg = p.arq.cfg := by
    intro data
    simp only [backendRecvFill]
    split <;> exact ⟨recvFrameFill_cap _ _, rfl⟩
  unfold pumpStep
  split
  · exact ⟨rfl, rfl⟩
  · exact ⟨rfl, rfl⟩
  · rename_i x xs chunks _
    dsimp only
    split
    · refine ⟨?_, (hfill (x :: xs)).2⟩
      rw [backendPoll_recvFrame, pollWork_recvFrame]
      split <;> exact (hfill (x :: xs)).1
    · exact hfill (x :: xs)

end

/-! ## Runs that get through -/

/-- What the bytes not yet decoded look like: the rest of the garbage and the frame, the frame
alone, or nothing once the frame has been decoded. -/
inductive Ahead (cap : Nat) (F : List UInt8) (done : Prop) (s : List UInt8) : Prop
  | garbage (g : List UInt8) (hs : s = g ++ 0 :: F) (hg : ShortRuns cap g)
  | frame (hs : s = F)
  | finished (hs : s = []) (hdone : done)

/-- The invariant of a run that gets through. -/
structure PumpOk (checksum : Checksum) (h : FrameHdr) (seg : List UInt8) (p : Pump)
    (pre : List UInt8) : Prop where
  sum : p.arq.cfg.checksum = checksum
  room : frameLen h.segLen ≤ p.arq.recvFrame.cap
  acc : Accumulating p.arq.recvFrame pre
  ends : ∀ f ∈ p.polled, DecodeEnds f
  ahead : Ahead p.arq.recvFrame.cap (encodeFrame checksum h seg)
    (p.polled.getLast?.map (RecvFrame.outcome checksum) = some (.success, h, seg))
    (pre ++ p.todo.flatten)

/-- The bytes and the chunks still to be offered. -/
def Pump.measure (p : Pump) : Nat := p.todo.flatten.length + p.todo.length

section

variable {checksum : Checksum} {h : FrameHdr} {seg : List UInt8} {p : Pump} {pre : List UInt8}

theorem PumpOk.step (hf : FrameFits h seg) (hp : PumpOk checksum h seg p pre) (b : Build)
    (dts : Nat → Nat) (htodo : p.todo ≠ []) :
    ∃ pre', PumpOk checksum h seg (pumpStep b dts p) pre' ∧
      (pumpStep b dts p).measure < p.measure := by
  obtain ⟨hsum, hroom, hacc, hends, hahead⟩ := hp
  obtain ⟨hcap, hcfg⟩ := pumpStep_frame b dts p
  rw [← hcap] at hroom
  have hsum' : (pumpStep b dts p).arq.cfg.checksum = checksum := by rw [hcfg, hsum]
  obtain ⟨body, hbody, hbodynz⟩ := @encodeFrame_delimited checksum _ _ hf
  have hbodylen : body.length + 1 = frameLen h.segLen := by
    rw [← length_encodeFrame checksum h seg, hbody]
    simp
  obtain ⟨chunk, chunks, htodo⟩ := List.exists_cons_of_ne_nil htodo
  cases chunk with
  | nil =>
    have hstep : pumpStep b dts p = { p with todo := chunks } := by
      unfold pumpStep
      rw [htodo]
    rw [hstep] at hcap hroom ⊢
    refine ⟨pre, ⟨hsum, hroom, hacc, hends, ?_⟩, ?_⟩
    · simpa [htodo] using hahead
    · simp only [Pump.measure, htodo, List.flatten_cons, List.length_append, List.length_cons,
        List.length_nil]
      omega
  | cons x xs =>
    rw [htodo, List.flatten_cons] at hahead
    rcases pumpStep_cases hacc htodo with ⟨hacc', htodo', hpolled⟩ | ⟨a, c, f, hchunk, hnz, hlen,
      hfull, hacc', htodo', hpolled⟩ | ⟨a, c, hchunk, hc, hlen, hacc', htodo', hpolled⟩
    · refine ⟨pre ++ x :: xs, ⟨hsum', hroom, hacc', ?_, ?_⟩, ?_⟩
      · rw [hpolled]
        exact hends
      · rw [hpolled, htodo', hcap]
        simpa using hahead
      · simp only [Pump.measure, htodo, htodo', List.flatten_cons, List.length_append,
          List.length_cons, List.length_nil]
        omega
    · -- A zero was copied: the frame before it is decoded, and the stream goes on behind it.
      refine ⟨[], ⟨hsum', hroom, hacc', ?_, ?_⟩, ?_⟩
      · rw [hpolled]
        intro f' hf'
        rcases List.mem_append.mp hf' with hf' | hf'
        · exact hends f' hf'
        · obtain rfl := List.mem_singleton.mp hf'
          exact decodeEnds_of_full hnz hfull
      · rw [hpolled, htodo', hcap, List.nil_append, List.flatten_cons]
        rw [hchunk, List.append_assoc, ← List.append_assoc] at hahead
        change Ahead _ _ _ (pre ++ a ++ 0 :: (c ++ chunks.flatten)) at hahead
        cases hahead with
        | garbage g hs hg =>
          rcases first_zero_cases hnz hs with ⟨-, hr⟩ | ⟨g', rfl, hr⟩
          · exact .frame hr
          · refine .garbage g' hr (hg.of_sub ?_)
            exact (List.suffix_cons 0 g').isInfix.trans (List.suffix_append _ _).isInfix
        | frame hs =>
          rw [hbody] at hs
          rcases first_zero_cases hnz hs with ⟨rfl, hr⟩ | ⟨g', rfl, -⟩
          · refine .finished hr ?_
            rw [← hbody] at hfull
            rw [List.getLast?_concat, Option.map_some, RecvFrame.outcome, hfull.read hf]
          · exact absurd rfl (hbodynz 0 (by simp))
        | finished hs _ => simp at hs
      · have hlen := congrArg List.length hchunk
        simp only [Pump.measure, htodo, htodo', List.flatten_cons, List.length_append,
          List.length_cons] at hlen ⊢
        omega
    · -- A full buffer without a zero: no run of the garbage is that long.
      exfalso
      rw [hchunk, List.append_assoc, ← List.append_assoc] at hahead
      cases hahead with
      | garbage g hs hg =>
        obtain ⟨g', rfl, -⟩ := split_before_zero hacc'.nonzero hs
        have := hg (pre ++ a) (List.prefix_append _ _).isInfix hacc'.nonzero
        omega
      | frame hs =>
        rw [hbody] at hs
        obtain ⟨b', rfl, -⟩ := split_before_zero hacc'.nonzero hs
        rw [List.length_append] at hbodylen
        omega
      | finished hs _ =>
        simp only [List.append_eq_nil_iff] at hs
        exact hc hs.2.1

/-- A run that keeps the invariant consumes everything. -/
theorem PumpOk.run (hf : FrameFits h seg) (b : Build) (dts : Nat → Nat) :
    ∀ (n : Nat) (p : Pump) (pre : List UInt8), PumpOk checksum h seg p pre → p.measure = n →
      ∃ k pre', ((pumpStep b dts)^[k] p).todo = [] ∧
        PumpOk checksum h seg ((pumpStep b dts)^[k] p) pre' := by
  intro n
  induction n using Nat.strong_induction_on with
  | _ n ih =>
    intro p pre hp hn
    by_cases htodo : p.todo = []
    · exact ⟨0, pre, htodo, hp⟩
    · obtain ⟨pre', hp', hlt⟩ := hp.step hf b dts htodo
      obtain ⟨k, pre'', hk⟩ := ih _ (by omega) _ pre' hp' rfl
      exact ⟨k + 1, pre'', hk⟩

theorem PumpOk.finish (hf : FrameFits h seg) (hp : PumpOk checksum h seg p pre)
    (htodo : p.todo = []) :
    p.polled.getLast?.map (RecvFrame.outcome checksum) = some (.success, h, seg) := by
  obtain ⟨-, -, hacc, -, hahead⟩ := hp
  rw [htodo, List.flatten_nil, List.append_nil] at hahead
  cases hahead with
  | garbage g hs _ => exact absurd rfl (hacc.nonzero 0 (by simp [hs]))
  | frame hs =>
    obtain ⟨body, hbody, -⟩ := @encodeFrame_delimited checksum _ _ hf
    exact absurd rfl (hacc.nonzero 0 (by simp [hs, hbody]))
  | finished _ hdone => exact hdone

end

/-! ## Runs that get stuck -/

/-- The invariant of a run that does not get through: a run without a zero that fills the receive
frame lies ahead, with more bytes behind it. -/
structure PumpStuck (p : Pump) (pre : List UInt8) : Prop where
  acc : Accumulating p.arq.recvFrame pre
  ahead : ∃ l run y, pre ++ p.todo.flatten = l ++ (run ++ y) ∧ (∀ b ∈ run, b ≠ 0) ∧
    run.length = p.arq.recvFrame.cap ∧ y ≠ []

theorem PumpStuck.todo_ne {p : Pump} {pre : List UInt8} (hp : PumpStuck p pre) : p.todo ≠ [] := by
  intro htodo
  obtain ⟨hacc, l, run, y, hs, -, hlen, hy⟩ := hp
  have hfits := hacc.fits
  have hylen := List.length_pos_iff.mpr hy
  have := congrArg List.length hs
  simp only [htodo, List.flatten_nil, List.append_nil, List.length_append] at this
  omega

theorem PumpStuck.step {p : Pump} {pre : List UInt8} (hp : PumpStuck p pre) (b : Build)
    (dts : Nat → Nat) : ∃ pre', PumpStuck (pumpStep b dts p) pre' := by
  obtain ⟨chunk, chunks, htodo⟩ := List.exists_cons_of_ne_nil hp.todo_ne
  obtain ⟨hacc, l, run, y, hs, hrun, hlen, hy⟩ := hp
  obtain ⟨hcap, -⟩ := pumpStep_frame b dts p
  rw [htodo, List.flatten_cons] at hs
  cases chunk with
  | nil =>
    have hstep : pumpStep b dts p = { p with todo := chunks } := by
      unfold pumpStep
      rw [htodo]
    rw [hstep]
    exact ⟨pre, hacc, l, run, y, hs, hrun, hlen, hy⟩
  | cons x xs =>
    rcases pumpStep_cases hacc htodo with ⟨hacc', htodo', -⟩ | ⟨a, c, f, hchunk, -, hlen', -, hacc',
      htodo', -⟩ | ⟨a, c, hchunk, -, -, hacc', htodo', -⟩
    · refine ⟨pre ++ x :: xs, hacc', l, run, y, ?_, hrun, hlen.trans hcap.symm, hy⟩
      rw [htodo']
      simpa using hs
    · rw [hchunk, List.append_assoc, ← List.append_assoc] at hs
      obtain ⟨l', hl'⟩ := run_behind_zero hrun (by omega) hs
      refine ⟨[], hacc', l', run, y, ?_, hrun, hlen.trans hcap.symm, hy⟩
      rw [htodo', List.nil_append, List.flatten_cons]
      exact hl'
    · refine ⟨pre ++ a, hacc', l, run, y, ?_, hrun, hlen.trans hcap.symm, hy⟩
      rw [htodo', List.flatten_cons, ← hs, hchunk]
      simp

theorem PumpStuck.run {p : Pump} {pre : List UInt8} (hp : PumpStuck p pre) (b : Build)
    (dts : Nat → Nat) (n : Nat) : ((pumpStep b dts)^[n] p).todo ≠ [] := by
  induction n generalizing p pre with
  | zero => exact hp.todo_ne
  | succ n ih =>
    obtain ⟨pre', hp'⟩ := hp.step b dts
    exact ih hp'

/-! ## The exact condition -/

theorem arqInit_recvFrame {b : Build} {cfg : Cfg} {seat arq : Arq}
    (hinit : arqInit b cfg seat = .ok arq) (hseg : cfg.segmentLengthInBytes ≤ 238) :
    Accumulating arq.recvFrame [] ∧ arq.recvFrame.cap = frameLen cfg.segmentLengthInBytes ∧
      arq.cfg = cfg := by
  unfold arqInit at hinit
  split at hinit
  · cases hinit
    have hcap : u16 (frameLen cfg.segmentLengthInBytes) = frameLen cfg.segmentLengthInBytes :=
      u16_of_lt (by rw [frameLen_eq]; omega)
    refine ⟨accumulating_rst ?_, hcap, rfl⟩
    exact hcap.trans_lt (by rw [frameLen_eq]; omega)
  · cases hinit

section

variable {b : Build} {cfg : Cfg} {seat arq : Arq} {h : FrameHdr} {seg g : List UInt8}
  {chunks : List (List UInt8)}

theorem resynchronises_of_short (hinit : arqInit b cfg seat = .ok arq)
    (hseg : cfg.segmentLengthInBytes ≤ 238) (hf : FrameFits h seg)
    (hroom : h.segLen ≤ cfg.segmentLengthInBytes)
    (hchunks : chunks.flatten = g ++ 0 :: encodeFrame cfg.checksum h seg)
    (hg : ShortRuns (frameLen cfg.segmentLengthInBytes) g) (dts : Nat → Nat) :
    Resynchronises b dts arq chunks h seg := by
  obtain ⟨hacc, hcap, hcfg⟩ := arqInit_recvFrame hinit hseg
  have hstart : PumpOk cfg.checksum h seg ⟨arq, chunks, []⟩ [] := by
    refine ⟨by rw [hcfg], ?_, hacc, by simp, .garbage g hchunks (hcap ▸ hg)⟩
    rw [hcap, frameLen_eq, frameLen_eq]
    omega
  obtain ⟨n, pre, htodo, hok⟩ := PumpOk.run hf b dts _ _ _ hstart rfl
  refine ⟨n, htodo, hok.ends, ?_⟩
  rw [hcfg]
  exact hok.finish hf htodo

theorem not_resynchronises_of_long (hinit : arqInit b cfg seat = .ok arq)
    (hseg : cfg.segmentLengthInBytes ≤ 238)
    (hchunks : chunks.flatten = g ++ 0 :: encodeFrame cfg.checksum h seg)
    (hg : ¬ ShortRuns (frameLen cfg.segmentLengthInBytes) g) (dts : Nat → Nat) :
    ¬ Resynchronises b dts arq chunks h seg := by
  obtain ⟨hacc, hcap, -⟩ := arqInit_recvFrame hinit hseg
  obtain ⟨run, ⟨l, r, hlr⟩, hrun, hlen⟩ : ∃ run, run <:+: g ∧ (∀ b ∈ run, b ≠ 0) ∧
      frameLen cfg.segmentLengthInBytes ≤ run.length := by
    simpa [ShortRuns] using hg
  have hstart : PumpStuck ⟨arq, chunks, []⟩ [] := by
    refine ⟨hacc, l, run.take (frameLen cfg.segmentLengthInBytes),
      run.drop (frameLen cfg.segmentLengthInBytes) ++ (r ++ 0 :: encodeFrame cfg.checksum h seg),
      ?_, fun b hb => hrun b (List.mem_of_mem_take hb), ?_, by simp⟩
    · rw [List.nil_append, hchunks, ← hlr, ← List.append_assoc (List.take _ _),
        List.take_append_drop]
      simp
    · rw [List.length_take, hcap]
      omega
  rintro ⟨n, htodo, -⟩
  exact hstart.run b dts n htodo

end

/-- Segments of at most `238` bytes, and a receive window with a slot: one of a multiple of `65536`
messages has the capacity `0`, by which `arq__recv_wnd_frame` divides. -/
structure Cfg.Receives (cfg : Cfg) : Prop where
  segLen : cfg.segmentLengthInBytes ≤ 238
  recvCap : 0 < u16 cfg.recvWindowSizeInMessages

/-- **Resynchronisation.** Garbage, a zero byte and a written frame, cut into chunks in any way:
the driver consumes them all and decodes the frame last if and only if no zero-free run of the
garbage is as long as the receive frame. -/
theorem resync_iff_short_runs (b : Build) (cfg : Cfg) (seat arq : Arq)
    (hinit : arqInit b cfg seat = .ok arq) (hcfg : cfg.Receives)
    (g : List UInt8) (h : FrameHdr) (seg : List UInt8) (hfits : h.Fits)
    (hlen : seg.length = h.segLen) (hroom : h.segLen ≤ cfg.segmentLengthInBytes) (buf : Buf)
    (chunks : List (List UInt8))
    (hchunks : chunks.flatten = g ++ 0 :: Outgoing.bytes cfg.checksum ⟨h, seg, buf⟩)
    (dts : Nat → Nat) :
    Resynchronises b dts arq chunks h seg ↔
      ∀ run, run <:+: g → (∀ b ∈ run, b ≠ 0) →
        run.length < frameLen cfg.segmentLengthInBytes := by
  have hseg := hcfg.segLen
  have hf : FrameFits h seg := ⟨hfits, hlen, by omega⟩
  have hstream : chunks.flatten = g ++ 0 :: encodeFrame cfg.checksum h seg := by
    rw [hchunks]
    congr 2
    exact frameWrite_bytes hf.wire buf
  constructor
  · intro hres
    by_contra hg
    exact not_resynchronises_of_long hinit hseg hstream hg dts hres
  · intro hg
    exact resynchronises_of_short hinit hseg hf hroom hstream hg dts

def sampleDataHdr : FrameHdr := { frameHdrInit with segLen := 1, msgLen := 1, seg := true }

theorem resync_iff_short_runs_sample :
    Resynchronises ⟨false⟩ (fun _ => 0) (freshArq ⟨false⟩ (smallCfg 1 1 1))
      [[7, 0], 9 :: 0 :: Outgoing.bytes (smallCfg 1 1 1).checksum
        ⟨sampleDataHdr, [5], fun _ => 1⟩] sampleDataHdr [5] := by
  refine (resync_iff_short_runs ⟨false⟩ (smallCfg 1 1 1) (zeroSeat _) _
    (arqInit_zeroSeat (by decide)) ⟨by decide, by decide⟩ [7, 0, 9] sampleDataHdr [5] ⟨by decide, by decide,
      by decide, by decide, by decide, by decide, by decide, by decide⟩ rfl (by decide)
    (fun _ => 1) _ rfl (fun _ => 0)).mpr ?_
  intro run hrun _
  exact hrun.length_le.trans_lt (by decide)

/-- Nineteen bytes without a zero fill the receive frame of an instance with segments of one byte,
and the frame behind them is never decoded. -/
theorem long_run_blocks :
    ¬ Resynchronises ⟨false⟩ (fun _ => 0) (freshArq ⟨false⟩ (smallCfg 1 1 1))
        [List.replicate 19 7 ++ 0 :: Outgoing.bytes (smallCfg 1 1 1).checksum
          ⟨frameHdrInit, [], fun _ => 0⟩] frameHdrInit [] := by
  refine not_resynchronises_of_long (arqInit_zeroSeat (by decide)) (by decide)
    (List.flatten_singleton ..) ?_ _
  intro hshort
  have hnonzero : ∀ b ∈ List.replicate 19 (7 : UInt8), b ≠ 0 := by simp
  have hlength := hshort (List.replicate 19 7) (List.infix_refl _) hnonzero
  exact absurd hlength (by decide)

end NanoArq
