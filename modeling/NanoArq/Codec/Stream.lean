import NanoArq.Codec.Accumulate
import Mathlib.Data.UInt

/-!
# The frame stream round trip

A receiver offers the chunks of a byte stream to `arq__recv_frame_fill`, offers again what a
call did not take, and reads and resets the frame whenever a complete one is present
(`feedChunk`, `feedChunks`). On the concatenation of written frames it decodes exactly the
frames that were written, however the stream is cut (`feedChunks_stream`).

The induction is on the bytes still to be offered. Its invariant: the accumulator holds a
zero-free `pre`, and `pre` followed by the bytes to come is the concatenation of the frames
not yet decoded.
-/

namespace NanoArq

open Lib

/-- The state of a receiver after offering some bytes: the receive frame, the bytes it could
not place, and the frames it has read. -/
structure Fed where
  frame : RecvFrame
  left : List UInt8
  reads : List FrameRead

/-- Offer a chunk until it is consumed, in at most `fuel` calls of `arq__recv_frame_fill`. -/
def feedChunk (checksum : Checksum) : Nat → RecvFrame → List UInt8 → Fed
  | 0, f, bytes => { frame := f, left := bytes, reads := [] }
  | fuel + 1, f, bytes =>
    let r := recvFrameFill f bytes
    let rest := bytes.drop r.2
    if r.1.state = .fullFramePresent then
      let read := frameRead r.1.buf r.1.len checksum
      let fed := feedChunk checksum fuel (recvFrameRst { r.1 with buf := read.buf }) rest
      { fed with reads := read :: fed.reads }
    else if rest = [] then { frame := r.1, left := [], reads := [] }
    else feedChunk checksum fuel r.1 rest

/-- Offer the chunks one after the other; `left` collects what could not be placed. -/
def feedChunks (checksum : Checksum) (f : RecvFrame) : List (List UInt8) → Fed
  | [] => { frame := f, left := [], reads := [] }
  | chunk :: chunks =>
    let fed := feedChunk checksum (chunk.length + 1) f chunk
    let rest := feedChunks checksum fed.frame chunks
    { frame := rest.frame, left := fed.left ++ rest.left, reads := fed.reads ++ rest.reads }

/-- The result, the header and the segment of a read. -/
def FrameRead.outcome (r : FrameRead) : FrameReadResult × FrameHdr × List UInt8 :=
  (r.result, r.hdr, r.seg)

/-- The frame `p` is well formed and fits a receive frame of capacity `cap`. -/
structure Receivable (cap : Nat) (p : FrameHdr × List UInt8) : Prop where
  fits : FrameFits p.1 p.2
  room : frameLen p.1.segLen ≤ cap

def streamOf (checksum : Checksum) (items : List (FrameHdr × List UInt8)) : List UInt8 :=
  (items.map fun p => encodeFrame checksum p.1 p.2).flatten

/-- A zero-free beginning of a stream lies before the first zero. -/
theorem split_before_zero {pre s body tail : List UInt8} (hpre : ∀ b ∈ pre, b ≠ 0)
    (h : pre ++ s = body ++ 0 :: tail) : ∃ b', body = pre ++ b' ∧ s = b' ++ 0 :: tail := by
  rcases List.append_eq_append_iff.mp h with ⟨b', hbody, hs⟩ | ⟨c, hpre', hc⟩
  · exact ⟨b', hbody, hs⟩
  · cases c with
    | nil => exact ⟨[], by simpa using hpre'.symm, by simpa using hc.symm⟩
    | cons b c =>
      obtain ⟨rfl, rfl⟩ := List.cons.inj hc
      exact absurd rfl (hpre 0 (by simp [hpre']))

/-- A chunk of `b' ++ 0 :: tail` either lies inside `b'` or contains the zero. -/
theorem chunk_cases {chunk rest b' tail : List UInt8} (h : chunk ++ rest = b' ++ 0 :: tail) :
    (∃ a, b' = chunk ++ a ∧ rest = a ++ 0 :: tail) ∨
      ∃ c, chunk = b' ++ 0 :: c ∧ tail = c ++ rest := by
  rcases List.append_eq_append_iff.mp h with ⟨a, ha, hr⟩ | ⟨c, hchunk, hc⟩
  · exact Or.inl ⟨a, ha, hr⟩
  · cases c with
    | nil => exact Or.inl ⟨[], by simpa using hchunk.symm, by simpa using hc.symm⟩
    | cons b c =>
      obtain ⟨rfl, rfl⟩ := List.cons.inj hc
      exact Or.inr ⟨c, hchunk, rfl⟩

/-- The complete frame that `arq__frame_write` wrote reads as what was written. -/
theorem FullFrame.read {f : RecvFrame} {checksum : Checksum} {h : FrameHdr} {seg : List UInt8}
    (hf : FrameFits h seg) (hfull : FullFrame f (encodeFrame checksum h seg)) :
    (frameRead f.buf f.len checksum).outcome = (.success, h, seg) := by
  have hbytes := hfull.bytes
  have hlen := hfull.len
  rw [length_encodeFrame] at hbytes hlen
  obtain ⟨-, hresult, hhdr, hseg⟩ := frameRead_encode hf.wire hbytes
  rw [FrameRead.outcome, hlen, hresult, hhdr, hseg]

theorem encodeFrame_injective {checksum : Checksum} {h h' : FrameHdr} {seg seg' : List UInt8}
    (hf : FrameFits h seg) (hf' : FrameFits h' seg')
    (heq : encodeFrame checksum h seg = encodeFrame checksum h' seg') : h = h' ∧ seg = seg' := by
  obtain ⟨f, hfull⟩ : ∃ f, FullFrame f (encodeFrame checksum h seg) :=
    ⟨⟨memcpy (fun _ => 0) 0 (encodeFrame checksum h seg), .fullFramePresent, 0, _⟩,
      ⟨rfl, rfl, slice_memcpy_self (fun _ => 0) 0 _⟩⟩
  have hread := hfull.read hf
  rw [heq] at hfull
  rw [hfull.read hf'] at hread
  obtain ⟨-, hpair⟩ := Prod.mk.inj hread
  obtain ⟨rfl, rfl⟩ := Prod.mk.inj hpair
  exact ⟨rfl, rfl⟩

/-- One chunk of a stream of frames, from an accumulator that holds `pre`. -/
theorem feedChunk_stream {checksum : Checksum} {cap : Nat} (hcap : cap < 65536) :
    ∀ (fuel : Nat) (f : RecvFrame) (pre chunk rest : List UInt8)
      (items : List (FrameHdr × List UInt8)),
      chunk.length < fuel → f.cap = cap → Accumulating f pre →
      (∀ p ∈ items, Receivable cap p) → pre ++ (chunk ++ rest) = streamOf checksum items →
      ∃ read todo pre', items = read ++ todo ∧
        (feedChunk checksum fuel f chunk).left = [] ∧
        (feedChunk checksum fuel f chunk).reads.map FrameRead.outcome =
          read.map (fun p => (.success, p)) ∧
        (feedChunk checksum fuel f chunk).frame.cap = cap ∧
        Accumulating (feedChunk checksum fuel f chunk).frame pre' ∧
        pre' ++ rest = streamOf checksum todo := by
  intro fuel
  induction fuel with
  | zero => intro f pre chunk rest items hfuel; omega
  | succ fuel ih =>
    intro f pre chunk rest items hfuel hfcap hacc hitems hstream
    -- A chunk without a zero that fits is appended whole.
    have hplain : (∀ b ∈ chunk, b ≠ 0) → pre.length + chunk.length ≤ cap →
        ∃ read todo pre', items = read ++ todo ∧
          (feedChunk checksum (fuel + 1) f chunk).left = [] ∧
          (feedChunk checksum (fuel + 1) f chunk).reads.map FrameRead.outcome =
            read.map (fun p => (.success, p)) ∧
          (feedChunk checksum (fuel + 1) f chunk).frame.cap = cap ∧
          Accumulating (feedChunk checksum (fuel + 1) f chunk).frame pre' ∧
          pre' ++ rest = streamOf checksum todo := by
      intro hchunk hroom
      obtain ⟨hacc', htaken⟩ :=
        recvFrameFill_nonzero hacc fun b hb => hchunk b (List.mem_of_mem_take hb)
      have htake : chunk.take (f.cap - pre.length) = chunk := List.take_of_length_le (by omega)
      have hdrop : chunk.drop (recvFrameFill f chunk).2 = [] := by
        rw [htaken]
        exact List.drop_of_length_le (by omega)
      rw [htake] at hacc'
      refine ⟨[], items, pre ++ chunk, rfl, ?_, ?_, ?_, ?_, by simpa using hstream⟩ <;>
        simp only [feedChunk, hdrop, if_true, if_neg hacc'.not_full]
      · rfl
      · rw [recvFrameFill_cap, hfcap]
      · exact hacc'
    cases items with
    | nil =>
      have hnil : pre = [] ∧ chunk = [] := by
        simp only [streamOf, List.map_nil, List.flatten_nil, List.append_eq_nil_iff] at hstream
        exact ⟨hstream.1, hstream.2.1⟩
      obtain ⟨rfl, rfl⟩ := hnil
      exact hplain (by simp) (by simp)
    | cons p items =>
      obtain ⟨hfits, hroom⟩ := hitems p List.mem_cons_self
      obtain ⟨body, hbody, hbodynz⟩ := @encodeFrame_delimited checksum _ _ hfits
      have hlen : body.length + 1 = frameLen p.1.segLen := by
        rw [← length_encodeFrame checksum p.1 p.2, hbody]
        simp
      have hstream' : pre ++ (chunk ++ rest) = body ++ 0 :: streamOf checksum items := by
        rw [hstream, streamOf, List.map_cons, List.flatten_cons, hbody, List.append_assoc]
        rfl
      obtain ⟨b', rfl, hsplit⟩ := split_before_zero hacc.nonzero hstream'
      simp only [List.length_append] at hlen
      have hb' : ∀ b ∈ b', b ≠ 0 := fun b hb => hbodynz b (List.mem_append_right _ hb)
      rcases chunk_cases hsplit with ⟨a, rfl, -⟩ | ⟨c, rfl, htail⟩
      · simp only [List.length_append] at hlen
        exact hplain (fun b hb => hb' b (List.mem_append_left _ hb)) (by omega)
      · -- The zero is in the chunk: the frame is complete, and the rest of the chunk follows.
        obtain ⟨hfull, htaken⟩ := recvFrameFill_zero hacc hb' (by omega) c
        rw [← List.append_assoc, ← hbody] at hfull
        have hdrop : (b' ++ 0 :: c).drop (recvFrameFill f (b' ++ 0 :: c)).2 = c := by
          rw [htaken, List.drop_append]
          simp
        have hfuel' : c.length < fuel := by
          simp only [List.length_append, List.length_cons] at hfuel
          omega
        generalize hr : recvFrameFill f (b' ++ 0 :: c) = r at hfull hdrop
        have hrcap : r.1.cap = cap := by rw [← hr, recvFrameFill_cap, hfcap]
        obtain ⟨read, todo, pre', hsplit', hleft, hreads, hcap', hacc', hrest⟩ :=
          ih (recvFrameRst { r.1 with buf := (frameRead r.1.buf r.1.len checksum).buf }) [] c rest
            items hfuel' hrcap (accumulating_rst (by rw [← hrcap] at hcap; exact hcap))
            (fun q hq => hitems q (List.mem_cons_of_mem _ hq)) (by simpa using htail.symm)
        refine ⟨p :: read, todo, pre', by rw [hsplit']; rfl, ?_, ?_, ?_, ?_, hrest⟩ <;>
          simp only [feedChunk, hr, hdrop, if_pos hfull.state]
        · exact hleft
        · rw [List.map_cons, List.map_cons, hreads, hfull.read hfits]
        · exact hcap'
        · exact hacc'

/-- Every way of cutting a stream of frames decodes to the frames. -/
theorem feedChunks_stream {checksum : Checksum} {cap : Nat} (hcap : cap < 65536)
    (chunks : List (List UInt8)) :
    ∀ (f : RecvFrame) (pre : List UInt8) (items : List (FrameHdr × List UInt8)),
      f.cap = cap → Accumulating f pre → (∀ p ∈ items, Receivable cap p) →
      pre ++ chunks.flatten = streamOf checksum items →
      (feedChunks checksum f chunks).left = [] ∧
        (feedChunks checksum f chunks).reads.map FrameRead.outcome =
          items.map (fun p => (.success, p)) := by
  induction chunks with
  | nil =>
    intro f pre items hfcap hacc hitems hstream
    cases items with
    | nil => exact ⟨rfl, rfl⟩
    | cons p items =>
      -- A frame ends in a zero, which the accumulator cannot hold.
      obtain ⟨body, hbody, -⟩ := @encodeFrame_delimited checksum _ _
        (hitems p List.mem_cons_self).fits
      have hzero : (0 : UInt8) ∈ pre := by
        rw [List.flatten_nil, List.append_nil] at hstream
        rw [hstream, streamOf, List.map_cons, List.flatten_cons, hbody]
        simp
      exact absurd rfl (hacc.nonzero 0 hzero)
  | cons chunk chunks ih =>
    intro f pre items hfcap hacc hitems hstream
    rw [List.flatten_cons] at hstream
    obtain ⟨read, todo, pre', rfl, hleft, hreads, hcap', hacc', hrest⟩ :=
      feedChunk_stream hcap (chunk.length + 1) f pre chunk chunks.flatten items (by omega) hfcap
        hacc hitems hstream
    obtain ⟨hleft', hreads'⟩ := ih _ pre' todo hcap' hacc'
      (fun q hq => hitems q (List.mem_append_right _ hq)) hrest
    simp only [feedChunks, hleft, hleft', hreads, hreads', List.map_append, List.nil_append,
      and_self]

/-- A frame to be written: its header, its segment, and what its buffer held before. -/
structure Outgoing where
  hdr : FrameHdr
  seg : List UInt8
  buf : Buf

/-- The bytes of the frame in its buffer after `arq__frame_write`. -/
def Outgoing.bytes (checksum : Checksum) (o : Outgoing) : List UInt8 :=
  let r := frameWrite o.hdr o.seg checksum o.buf
  slice r.1 0 r.2

/-- **Frame stream round trip.** The receive frame is initialised for segments of `segLen`
bytes on arbitrary previous contents, within the capacity that `arq__recv_frame_init`
asserts. -/
theorem frame_stream_round_trip (checksum : Checksum) (segLen : Nat)
    (hcap : frameLen segLen < 65535) (seat : RecvFrame) (items : List Outgoing)
    (hitems : ∀ o ∈ items, o.hdr.Fits ∧ o.seg.length = o.hdr.segLen ∧ o.hdr.segLen ≤ 238 ∧
      o.hdr.segLen ≤ segLen)
    (chunks : List (List UInt8))
    (hchunks : chunks.flatten = (items.map (Outgoing.bytes checksum)).flatten) :
    (feedChunks checksum (recvFrameRst (recvFrameInit seat (frameLen segLen))) chunks).left = [] ∧
      (feedChunks checksum (recvFrameRst (recvFrameInit seat (frameLen segLen))) chunks).reads.map
          FrameRead.outcome =
        items.map (fun o => (.success, o.hdr, o.seg)) := by
  have hinit : (recvFrameRst (recvFrameInit seat (frameLen segLen))).cap = frameLen segLen :=
    u16_of_lt (by omega)
  have hstream : chunks.flatten =
      streamOf checksum (items.map fun o => (o.hdr, o.seg)) := by
    rw [hchunks, streamOf, List.map_map]
    congr 1
    apply List.map_congr_left
    intro o ho
    obtain ⟨hfits, hlen, hmax, -⟩ := hitems o ho
    exact frameWrite_bytes (FrameFits.wire ⟨hfits, hlen, hmax⟩) o.buf
  have hreceivable : ∀ p ∈ items.map (fun o => (o.hdr, o.seg)),
      Receivable (frameLen segLen) p := by
    intro p hp
    obtain ⟨o, ho, rfl⟩ := List.mem_map.mp hp
    obtain ⟨hfits, hlen, hmax, hseg⟩ := hitems o ho
    refine ⟨⟨hfits, hlen, hmax⟩, ?_⟩
    simp only [frameLen_eq]
    omega
  have hacc : Accumulating (recvFrameRst (recvFrameInit seat (frameLen segLen))) [] :=
    accumulating_rst (hinit.trans_lt (by omega))
  obtain ⟨hleft, hreads⟩ := feedChunks_stream (by omega) chunks _ [] _ hinit hacc hreceivable
    (by rw [List.nil_append, hstream])
  refine ⟨hleft, hreads.trans ?_⟩
  rw [List.map_map]
  rfl

/-- An ACK for message `4095` that carries one byte of message `5`. -/
def sampleOutgoing : Outgoing where
  hdr := { frameHdrInit with
    segLen := 1, seqNum := 5, msgLen := 3, segId := 2, ackNum := 4095, curAckVec := 0x801,
    ack := true, seg := true }
  seg := [0]
  buf := fun _ => 0xFF

theorem frame_stream_round_trip_sample :
    let checksum : Checksum := fun bytes => UInt32.ofNat bytes.sum.toNat
    let bytes := sampleOutgoing.bytes checksum
    (feedChunks checksum (recvFrameRst (recvFrameInit
        { buf := fun _ => 7, state := .fullFramePresent, cap := 0, len := 3 } (frameLen 4)))
      [bytes.take 1, bytes.drop 1 ++ bytes]).reads.map FrameRead.outcome =
        [(.success, sampleOutgoing.hdr, [0]), (.success, sampleOutgoing.hdr, [0])] :=
  (frame_stream_round_trip _ 4 (by decide) _ [sampleOutgoing, sampleOutgoing]
    (by
      intro o ho
      obtain rfl : o = sampleOutgoing := by simpa using ho
      exact ⟨⟨by decide, by decide, by decide, by decide, by decide, by decide, by decide,
        by decide⟩, rfl, by decide, by decide⟩)
    _ (by
      simp only [List.flatten_cons, List.flatten_nil, List.append_nil, List.map_cons, List.map_nil,
        ← List.append_assoc, List.take_append_drop])).2

end NanoArq
