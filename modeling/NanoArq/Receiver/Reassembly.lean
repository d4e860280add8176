import NanoArq.Receiver.Layout

/-!
# Reassembly

Segments of a sequence of messages arrive in any order and any number of times, and the application
reads in pieces of any length. What it reads is the concatenation of the messages, as far as they are
complete: `reassembly_exact`.
-/

namespace NanoArq

open Lib

/-! ## Runs -/

/-- A receive window, the segments it was given, and the bytes that were read from it. -/
structure Reassembly where
  rw : RecvWnd
  got : List (Nat × Nat)
  out : List UInt8

inductive ReassemblyOp where
  /-- Segment `j` of message `k` arrives. -/
  | frame (k j interSegAck : Nat)
  | recv (dstMax : Nat)

def reassemblyStep (d : RecvDims) (M : Nat → List UInt8) (r : Reassembly) :
    ReassemblyOp → Reassembly
  | .frame k j interSegAck =>
    { r with
      rw := (recvWndFrame r.rw (k % seqSpace) j (d.segsOf (M k)) (chunk d.segLen (M k) j)
        interSegAck).1
      got := (k, j) :: r.got }
  | .recv dstMax =>
    { r with
      rw := (recvWndRecv r.rw dstMax).1
      out := r.out ++ (recvWndRecv r.rw dstMax).2 }

/-- The segments that arrive belong to the `cap` messages from the first one on that was not read
completely. -/
def InWindow (d : RecvDims) (M : Nat → List UInt8) (r : Reassembly) : ReassemblyOp → Prop
  | .frame k j _ => j < d.segsOf (M k) ∧ wholeMessages M r.out.length ≤ k ∧
      k < wholeMessages M r.out.length + d.cap
  | .recv _ => True

instance (d : RecvDims) (M : Nat → List UInt8) (r : Reassembly) :
    (op : ReassemblyOp) → Decidable (InWindow d M r op)
  | .frame _ _ _ => inferInstanceAs (Decidable (_ ∧ _))
  | .recv _ => inferInstanceAs (Decidable True)

def Reassembly.start (d : RecvDims) (seat : RecvWnd) : Reassembly :=
  ⟨recvWndOpen seat d.cap d.msgLen d.segLen, [], []⟩

/-- Segment `j` of message `k` has arrived. -/
def Reassembly.Got (r : Reassembly) (k j : Nat) : Prop := (k, j) ∈ r.got

/-! ## The invariant -/

structure Assembled (d : RecvDims) (M : Nat → List UInt8) (r : Reassembly) (read : Nat) : Prop where
  layout : RecvLayout d M r.Got read r.rw
  pos : r.out.length = readPos M read r.rw
  out : ∃ e, r.out <+: concat M e

section

variable {d : RecvDims} {M : Nat → List UInt8} {r : Reassembly} {n : Nat}

theorem Assembled.read_eq (h : Assembled d M r n) (hM : ∀ k, MsgFits d (M k)) :
    wholeMessages M r.out.length = n := by
  rw [h.pos]
  refine wholeMessages_eq (fun k => List.ne_nil_of_length_pos (hM k).pos) ?_
  have := (hM n).pos
  rcases h.layout.ofs with h0 | ⟨-, hlt⟩
  · omega
  · exact hlt

/-- What was read is the beginning of the messages. -/
theorem Assembled.out_before (h : Assembled d M r n) {e : Nat} (he : LeadingRun d M r.Got e) :
    r.out <+: concat M e := by
  obtain ⟨e', hout⟩ := h.out
  have hlong := hout.trans (concat_mono M (Nat.le_max_left e' e))
  refine List.prefix_of_prefix_length_le hlong (concat_mono M (Nat.le_max_right e' e)) ?_
  rw [h.pos]
  exact h.layout.pos_le he

/-- What the next read hands over continues it. -/
theorem Assembled.read (h : Assembled d M r n) (hM : ∀ k, MsgFits d (M k)) {e : Nat}
    (he : LeadingRun d M r.Got e) (dstMax : Nat) :
    (recvWndRecv r.rw dstMax).2 = ((concat M e).drop r.out.length).take dstMax ∧
      r.out ++ (recvWndRecv r.rw dstMax).2 <+: concat M e := by
  obtain ⟨-, -, hbytes, -⟩ := recvWndRecv_layout h.layout hM he dstMax
  rw [← h.pos] at hbytes
  refine ⟨hbytes, ?_⟩
  obtain ⟨rest, hrest⟩ := h.out_before he
  rw [hbytes, ← hrest, List.drop_left]
  apply (List.prefix_append_right_inj _).mpr
  exact List.take_prefix _ _

theorem Assembled.read_mono (h : Assembled d M r n) {r' : Reassembly} {n' : Nat}
    (h' : Assembled d M r' n') (hM : ∀ k, MsgFits d (M k)) (hle : r.out.length ≤ r'.out.length) :
    n ≤ n' := by
  rw [← h.read_eq hM, ← h'.read_eq hM]
  exact wholeMessages_mono M hle

/-- Only the messages of which something was received matter. -/
theorem Assembled.of_messages (h : Assembled d M r n) {M' : Nat → List UInt8}
    (hM : ∀ k, MsgFits d (M k)) (hM' : ∀ k, MsgFits d (M' k)) (hsame : ∀ p ∈ r.got, M' p.1 = M p.1) :
    Assembled d M' r n := by
  have hgot : ∀ k j, r.Got k j → M' k = M k := fun k j hj => hsame (k, j) hj
  have hconcat : ∀ e, (∀ k, k < e → Complete d M r.Got k) → concat M' e = concat M e := by
    intro e he
    exact concat_congr fun k hk => hgot k 0 (he k hk 0 (hM k).segs_pos)
  obtain ⟨e, he⟩ := h.layout.leading hM
  refine ⟨h.layout.of_messages hM hM' hgot, ?_, e, ?_⟩
  · rw [readPos, hconcat n h.layout.done]
    exact h.pos
  · rw [hconcat e he.complete]
    exact h.out_before he

/-- A frame of a message of the window adds its segment. -/
theorem Assembled.frame (h : Assembled d M r n) (hM : ∀ k, MsgFits d (M k)) {k j : Nat} (hlo : n ≤ k)
    (hhi : k < n + d.cap) (hdist : k - (n - r.rw.slide) < 4095) (hj : j < d.segsOf (M k))
    (interSegAck : Nat) : Assembled d M (reassemblyStep d M r (.frame k j interSegAck)) n := by
  have hframe := recvWndFrame_layout h.layout hM hlo hhi hdist hj interSegAck
  refine ⟨hframe.of_got ?_, ?_, h.out⟩
  · intro k' j'
    simp only [Reassembly.Got, reassemblyStep, addSegment, List.mem_cons, Prod.mk.injEq]
    exact or_comm
  · simp only [reassemblyStep]
    rw [h.pos, readPos, readPos, recvWndFrame_copyOfs]

theorem Assembled.recv (h : Assembled d M r n) (hM : ∀ k, MsgFits d (M k)) (dstMax : Nat) :
    ∃ n', Assembled d M (reassemblyStep d M r (.recv dstMax)) n' := by
  obtain ⟨e, he⟩ := h.layout.leading hM
  obtain ⟨n', hlayout, -, hpos⟩ := recvWndRecv_layout h.layout hM he dstMax
  refine ⟨n', hlayout, ?_, e, (h.read hM he dstMax).2⟩
  simp only [reassemblyStep]
  rw [List.length_append, hpos, h.pos]

theorem Assembled.step (h : Assembled d M r n) (hM : ∀ k, MsgFits d (M k)) (hcap : d.cap ≤ 1024)
    (op : ReassemblyOp) (hop : InWindow d M r op) :
    ∃ n', Assembled d M (reassemblyStep d M r op) n' := by
  cases op with
  | frame k j interSegAck =>
    obtain ⟨hj, hlo, hhi⟩ := hop
    rw [h.read_eq hM] at hlo hhi
    have hslide := h.layout.slide_le
    have hss := h.layout.slide_size
    have hsize := h.layout.size_le
    exact ⟨n, h.frame hM hlo hhi (by omega) hj interSegAck⟩
  | recv dstMax => exact h.recv hM dstMax

end

/-! ## The theorem -/

theorem Assembled.start (d : RecvDims) (M : Nat → List UInt8) (seat : RecvWnd) :
    Assembled d M (.start d seat) 0 :=
  ⟨(recvWndOpen_layout d M seat).of_got fun _ _ => by simp [Reassembly.Got, Reassembly.start], rfl, 0,
    List.nil_prefix⟩

/-- **Reassembly does not depend on the order of arrival or the length of the reads.** -/
theorem reassembly_exact (d : RecvDims) (hcap : d.cap ≤ 1024) (M : Nat → List UInt8)
    (hM : ∀ k, MsgFits d (M k)) (seat : RecvWnd) (r : Reassembly)
    (hrun : Run (reassemblyStep d M) (InWindow d M) (.start d seat) r) :
    ∃ e, LeadingRun d M r.Got e ∧ r.out <+: concat M e ∧ ∀ dstMax,
      r.out ++ (recvWndRecv r.rw dstMax).2 <+: concat M e ∧
      (recvWndRecv r.rw dstMax).2.length = min dstMax ((concat M e).length - r.out.length) := by
  have hassembled : ∃ n, Assembled d M r n := by
    induction hrun with
    | start => exact ⟨0, .start d M seat⟩
    | next _ op hop ih =>
      obtain ⟨n, h⟩ := ih
      exact h.step hM hcap op hop
  obtain ⟨n, h⟩ := hassembled
  obtain ⟨e, he⟩ := h.layout.leading hM
  refine ⟨e, he, h.out_before he, ?_⟩
  intro dstMax
  obtain ⟨hbytes, hread⟩ := h.read hM he dstMax
  refine ⟨hread, ?_⟩
  rw [hbytes, List.length_take, List.length_drop]

/-- Two messages of two segments of at most two bytes. -/
def reassemblySampleDims : RecvDims where
  cap := 2
  segs := 2
  segLen := 2
  cap_pos := Nat.two_pos
  cap_le := by decide
  cap_dvd := two_dvd_seqSpace
  segs_pos := Nat.two_pos
  segLen_pos := Nat.two_pos
  fits := by decide

theorem reassembly_exact_sample :
    let M : Nat → List UInt8 := fun _ => [7, 8, 9]
    let ops := [ReassemblyOp.frame 1 1 0, .frame 0 1 0, .frame 1 1 0, .frame 0 0 0, .recv 2]
    let r := ops.foldl (reassemblyStep reassemblySampleDims M)
      (.start reassemblySampleDims (zeroSeat (smallCfg 2 2 2)).recvWnd)
    r.out = [7, 8] ∧ ∃ e, LeadingRun reassemblySampleDims M r.Got e ∧ r.out <+: concat M e ∧
      ∀ dstMax, r.out ++ (recvWndRecv r.rw dstMax).2 <+: concat M e ∧
        (recvWndRecv r.rw dstMax).2.length = min dstMax ((concat M e).length - r.out.length) :=
  ⟨by decide +kernel, reassembly_exact reassemblySampleDims (by decide) (fun _ => [7, 8, 9])
    (fun _ => ⟨by decide, by decide, by decide⟩) (zeroSeat (smallCfg 2 2 2)).recvWnd _
    (.exec (by decide +kernel))⟩

end NanoArq
