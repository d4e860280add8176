import NanoArq.Codec.Stream
import NanoArq.Poll.Stages

/-!
# Frames in flight

What lies between the send frame of one instance and the receive frame of another, when the bytes
that `arq_backend_send_ptr_get` exposes go over a reliable wire to `arq_backend_recv_fill`.

* `Incoming f wire items`: the receive frame and the wire hold the frames `items`.
* `Departing f item`: the send frame holds a frame that is not yet on the wire.
* `InFlight`: both, as one queue, with a rule for each call: `InFlight.deliver`, `InFlight.read`,
  `InFlight.get`, `InFlight.release` and `InFlight.write`.
-/

namespace NanoArq

open Lib

structure Incoming (checksum : Checksum) (f : RecvFrame) (wire : List UInt8)
    (items : List (FrameHdr × List UInt8)) : Prop where
  cap : f.cap < 65536
  receivable : ∀ p ∈ items, Receivable f.cap p
  held : (∃ pre, Accumulating f pre ∧ pre ++ wire = streamOf checksum items) ∨
    ∃ p rest, items = p :: rest ∧ FullFrame f (encodeFrame checksum p.1 p.2) ∧
      wire = streamOf checksum rest

section

variable {checksum : Checksum} {f : RecvFrame} {wire : List UInt8}
  {items : List (FrameHdr × List UInt8)}

theorem streamOf_append (checksum : Checksum) (as bs : List (FrameHdr × List UInt8)) :
    streamOf checksum (as ++ bs) = streamOf checksum as ++ streamOf checksum bs := by
  simp [streamOf]

/-- A stream begins with its first frame, up to the zero. -/
theorem streamOf_cons (checksum : Checksum) {cap : Nat} {p : FrameHdr × List UInt8}
    (items : List (FrameHdr × List UInt8)) (hp : Receivable cap p) :
    ∃ body, encodeFrame checksum p.1 p.2 = body ++ [0] ∧ (∀ b ∈ body, b ≠ 0) ∧
      streamOf checksum (p :: items) = body ++ 0 :: streamOf checksum items := by
  obtain ⟨body, hbody, hnz⟩ := @encodeFrame_delimited checksum _ _ hp.fits
  refine ⟨body, hbody, hnz, ?_⟩
  rw [streamOf, List.map_cons, List.flatten_cons, hbody, List.append_assoc]
  rfl

theorem recvFrameFill_le (f : RecvFrame) (src : List UInt8) : (recvFrameFill f src).2 ≤ src.length := by
  have hgo : ∀ (src : List UInt8) (m : Buf) (dst : Nat),
      (recvFrameFillGo m dst src).2.1 ≤ src.length := by
    intro src
    induction src with
    | nil =>
      intro m dst
      exact le_rfl
    | cons b bs ih =>
      intro m dst
      rw [recvFrameFillGo, List.length_cons]
      dsimp only
      split
      · exact Nat.le_add_left 1 _
      · exact Nat.succ_le_succ (ih _ _)
  unfold recvFrameFill
  split
  · exact Nat.zero_le _
  · refine (hgo _ _ _).trans ?_
    rw [List.length_take]
    exact Nat.min_le_right _ _

/-- The first zero of a list is in one place. -/
theorem first_zero_unique {a b s t : List UInt8} (ha : ∀ x ∈ a, x ≠ 0) (hb : ∀ x ∈ b, x ≠ 0)
    (h : a ++ 0 :: s = b ++ 0 :: t) : a = b ∧ s = t := by
  obtain ⟨b', rfl, hs⟩ := split_before_zero ha h
  cases b' with
  | nil => exact ⟨by simp, by simpa using hs⟩
  | cons x b' =>
    obtain ⟨rfl, -⟩ := List.cons.inj hs
    exact absurd rfl (hb 0 (by simp))

/-- Offering bytes of the wire to the receive frame. -/
theorem Incoming.fill (h : Incoming checksum f wire items) (n : Nat) :
    Incoming checksum (recvFrameFill f (wire.take n)).1
      (wire.drop (recvFrameFill f (wire.take n)).2) items := by
  obtain ⟨hcap, hitems, ⟨pre, hacc, hstream⟩ | ⟨p, rest, hsplit, hfull, hwire⟩⟩ := h
  · have hle := recvFrameFill_le f (wire.take n)
    have hdrop : wire.drop (recvFrameFill f (wire.take n)).2 =
        (wire.take n).drop (recvFrameFill f (wire.take n)).2 ++ wire.drop n := by
      have happ : (wire.take n ++ wire.drop n).drop (recvFrameFill f (wire.take n)).2 =
          (wire.take n).drop (recvFrameFill f (wire.take n)).2 ++ wire.drop n :=
        List.drop_append_of_le_length hle
      rwa [List.take_append_drop] at happ
    have hwire := List.take_append_drop n wire
    have hcap' := recvFrameFill_cap f (wire.take n)
    have hcases := recvFrameFill_cases hacc (wire.take n)
    generalize recvFrameFill f (wire.take n) = r at *
    generalize wire.take n = chunk at *
    refine ⟨by rw [hcap']; exact hcap, by rw [hcap']; exact hitems, ?_⟩
    rw [hdrop]
    obtain ⟨hacc', hrest⟩ | ⟨a, c, hchunk, ha, -, hfull, hrest⟩ |
      ⟨a, c, hchunk, hc, hlen, hacc', hrest⟩ := hcases
    · refine Or.inl ⟨pre ++ chunk, hacc', ?_⟩
      rw [hrest, List.nil_append, List.append_assoc, hwire, hstream]
    · rw [← hwire, hchunk, List.append_assoc, ← List.append_assoc, List.cons_append] at hstream
      have hpa : ∀ b ∈ pre ++ a, b ≠ 0 := by
        intro b hb
        rcases List.mem_append.mp hb with hb | hb
        · exact hacc.nonzero b hb
        · exact ha b hb
      cases items with
      | nil => simp [streamOf] at hstream
      | cons p items =>
        obtain ⟨body, hbody, hbodynz⟩ := @encodeFrame_delimited checksum _ _
          (hitems p List.mem_cons_self).fits
        have hhead : streamOf checksum (p :: items) = body ++ 0 :: streamOf checksum items := by
          rw [streamOf, List.map_cons, List.flatten_cons, hbody, List.append_assoc]
          rfl
        rw [hhead] at hstream
        obtain ⟨heq, hrest'⟩ := first_zero_unique hpa hbodynz hstream
        refine Or.inr ⟨p, items, rfl, ?_, by rw [hrest, hrest']⟩
        rw [← List.append_assoc, heq, ← hbody] at hfull
        exact hfull
    · exfalso
      rw [← hwire, hchunk, List.append_assoc, ← List.append_assoc] at hstream
      cases items with
      | nil =>
        rw [show streamOf checksum [] = [] from rfl] at hstream
        simp only [List.append_eq_nil_iff] at hstream
        exact hc hstream.2.1
      | cons p items =>
        obtain ⟨hfits, hroom⟩ := hitems p List.mem_cons_self
        obtain ⟨body, hbody, -⟩ := @encodeFrame_delimited checksum _ _ hfits
        have hhead : streamOf checksum (p :: items) = body ++ 0 :: streamOf checksum items := by
          rw [streamOf, List.map_cons, List.flatten_cons, hbody, List.append_assoc]
          rfl
        rw [hhead] at hstream
        obtain ⟨b', rfl, -⟩ := split_before_zero hacc'.nonzero hstream
        have hlen' := length_encodeFrame checksum p.1 p.2
        rw [hbody] at hlen'
        simp only [List.length_append, List.length_cons, List.length_nil] at hlen hlen'
        omega
  · have hstay : recvFrameFill f (wire.take n) = (f, 0) := by
      rw [recvFrameFill, if_pos hfull.state]
    rw [hstay]
    exact ⟨hcap, hitems, Or.inr ⟨p, rest, hsplit, hfull, hwire⟩⟩

/-- A frame is put on the wire. -/
theorem Incoming.push (h : Incoming checksum f wire items) {p : FrameHdr × List UInt8}
    (hp : Receivable f.cap p) :
    Incoming checksum f (wire ++ encodeFrame checksum p.1 p.2) (items ++ [p]) := by
  have hone : streamOf checksum [p] = encodeFrame checksum p.1 p.2 := by simp [streamOf]
  obtain ⟨hcap, hitems, hheld⟩ := h
  refine ⟨hcap, ?_, ?_⟩
  · intro r hr
    rcases List.mem_append.mp hr with hr | hr
    · exact hitems r hr
    · rw [List.mem_singleton.mp hr]
      exact hp
  · obtain ⟨pre, hacc, hstream⟩ | ⟨r, rest, rfl, hfull, rfl⟩ := hheld
    · refine Or.inl ⟨pre, hacc, ?_⟩
      rw [← List.append_assoc, hstream, streamOf_append, hone]
    · exact Or.inr ⟨r, rest ++ [p], rfl, hfull, by rw [streamOf_append, hone]⟩

end

/-! ## The sending end -/

/-- The send frame holds a frame that is not yet on the wire, or it does not. -/
inductive Departing (checksum : Checksum) (f : SendFrame) : Option (FrameHdr × List UInt8) → Prop
  | idle (hlen : f.len = 0) (hstate : f.state ≠ .held) : Departing checksum f none
  | taken (hlen : f.len ≠ 0) (hstate : f.state = .held) : Departing checksum f none
  | ready {p : FrameHdr × List UInt8} (hfits : FrameFits p.1 p.2) (hlen : f.len = frameLen p.1.segLen)
      (hstate : f.state ≠ .held) (hbytes : slice f.buf 0 f.len = encodeFrame checksum p.1 p.2) :
      Departing checksum f (some p)

/-- The frames on their way from the send frame `out` to the receive frame `inn`. -/
def InFlight (checksum : Checksum) (out : SendFrame) (wire : List UInt8) (inn : RecvFrame)
    (q : List (FrameHdr × List UInt8)) : Prop :=
  ∃ items item, q = items ++ item.toList ∧ Incoming checksum inn wire items ∧
    Departing checksum out item ∧ ∀ p, item = some p → Receivable inn.cap p

section

variable {checksum : Checksum} {arq : Arq} {out : SendFrame} {wire : List UInt8} {inn : RecvFrame}
  {q : List (FrameHdr × List UInt8)}

/-- The bytes that `arq_backend_send_ptr_get` puts on the wire: those of a frame that it had not
exposed before. -/
def exposed (arq : Arq) : List UInt8 :=
  if arq.sendFrame.state = .held then [] else ((backendSendPtrGet arq).2).getD []

theorem InFlight.start (hlen : out.len = 0) (hstate : out.state ≠ .held)
    (hacc : Accumulating inn []) : InFlight checksum out [] inn [] :=
  ⟨[], none, rfl, ⟨hacc.cap, by simp, Or.inl ⟨[], hacc, rfl⟩⟩, .idle hlen hstate, by simp⟩

theorem InFlight.get (h : InFlight checksum arq.sendFrame wire inn q) :
    InFlight checksum (backendSendPtrGet arq).1.sendFrame (wire ++ exposed arq) inn q := by
  obtain ⟨items, item, rfl, hin, hout, hrec⟩ := h
  unfold exposed backendSendPtrGet
  cases hout with
  | idle hlen hstate =>
    rw [if_neg (not_not_intro hlen), if_neg hstate]
    refine ⟨items, none, rfl, by simpa using hin, .idle hlen (by simp), by simp⟩
  | taken hlen hstate =>
    rw [if_pos hlen, if_pos hstate]
    refine ⟨items, none, rfl, by simpa using hin, .taken hlen rfl, by simp⟩
  | @ready p hfits hlen hstate hbytes =>
    have hne : arq.sendFrame.len ≠ 0 := by
      rw [hlen, frameLen_eq]
      omega
    rw [if_pos hne, if_neg hstate]
    refine ⟨items ++ [p], none, by simp, ?_, .taken hne rfl, by simp⟩
    rw [Option.getD_some, hbytes]
    exact hin.push (hrec p rfl)

/-- A frame that is exposed for the first time is lost. -/
theorem InFlight.lose (h : InFlight checksum arq.sendFrame wire inn q) :
    ∃ q', q'.Sublist q ∧ InFlight checksum (backendSendPtrGet arq).1.sendFrame wire inn q' := by
  obtain ⟨items, item, rfl, hin, hout, -⟩ := h
  refine ⟨items, List.sublist_append_left items item.toList, items, none, by simp, hin, ?_, by simp⟩
  unfold backendSendPtrGet
  cases hout with
  | idle hlen =>
    rw [if_neg (not_not_intro hlen)]
    exact .idle hlen (by simp)
  | taken hlen =>
    rw [if_pos hlen]
    exact .taken hlen rfl
  | ready _ hlen =>
    have hne : arq.sendFrame.len ≠ 0 := by
      rw [hlen, frameLen_eq]
      omega
    rw [if_pos hne]
    exact .taken hne rfl

theorem InFlight.release (h : InFlight checksum arq.sendFrame wire inn q) :
    InFlight checksum (backendSendPtrRelease arq).1.sendFrame wire inn q := by
  obtain ⟨items, item, rfl, hin, hout, hrec⟩ := h
  unfold backendSendPtrRelease
  cases hout with
  | idle hlen hstate =>
    rw [if_pos hstate]
    exact ⟨items, none, rfl, hin, .idle hlen hstate, by simp⟩
  | taken hlen hstate =>
    rw [if_neg (not_not_intro hstate)]
    exact ⟨items, none, rfl, hin, .idle rfl (by simp), by simp⟩
  | @ready p hfits hlen hstate hbytes =>
    rw [if_pos hstate]
    exact ⟨items, some p, rfl, hin, .ready hfits hlen hstate hbytes, hrec⟩

theorem InFlight.deliver (h : InFlight checksum out wire arq.recvFrame q) (n : Nat) :
    InFlight checksum out (wire.drop (backendRecvFill arq (wire.take n)).2.2)
      (backendRecvFill arq (wire.take n)).1.recvFrame q := by
  have hsize : (backendRecvFill arq (wire.take n)).2.2 =
      (recvFrameFill arq.recvFrame (wire.take n)).2 := by
    simp only [backendRecvFill]
    split <;> rfl
  obtain ⟨items, item, rfl, hin, hout, hrec⟩ := h
  rw [hsize, backendRecvFill_recvFrame]
  refine ⟨items, item, rfl, hin.fill n, hout, ?_⟩
  rw [recvFrameFill_cap]
  exact hrec

/-- A poll writes its frame behind those in flight. -/
theorem InFlight.write (b : Build) (dt : Nat) (h : InFlight checksum arq.sendFrame wire inn q)
    (hsum : arq.cfg.checksum = checksum)
    (hfree : pollFrame (pollWork b arq dt) ≠ none → sendFrameFree arq)
    (hrec : ∀ p, pollFrame (pollWork b arq dt) = some p → Receivable inn.cap p) :
    InFlight checksum (backendPoll b arq dt).1.sendFrame wire inn
      (q ++ (pollFrame (pollWork b arq dt)).toList) := by
  rw [backendPoll_sendFrame]
  cases hp : pollFrame (pollWork b arq dt) with
  | none => simpa using h
  | some p =>
    obtain ⟨items, item, rfl, hin, hout, -⟩ := h
    obtain ⟨hlen, hstate⟩ := hfree (by simp [hp])
    obtain ⟨hfits, -⟩ := hrec p hp
    have hitem : item = none := by
      cases hout with
      | idle => rfl
      | taken => rfl
      | ready _ hlen' =>
        rw [hlen, frameLen_eq] at hlen'
        omega
    obtain rfl := hitem
    refine ⟨items, some p, by simp, hin, ?_, fun r hr => by rw [← Option.some.inj hr]; exact hrec p hp⟩
    have hsegLen := hfits.segLen
    have hwritten : u16 (frameWrite p.1 p.2 arq.cfg.checksum arq.sendFrame.buf).2 =
        frameLen p.1.segLen := by
      rw [frameWrite_eq]
      refine u16_of_lt ?_
      rw [frameLen_eq]
      omega
    refine .ready hfits hwritten (by simp) ?_
    dsimp only
    rw [hwritten, hsum]
    exact frameWrite_bytes hfits.wire _

/-- A poll reads the first frame in flight, if it is complete, and leaves the others. -/
theorem InFlight.read (b : Build) (dt : Nat) (h : InFlight checksum out wire arq.recvFrame q)
    (hsum : arq.cfg.checksum = checksum) :
    (pollRead arq = none ∧ InFlight checksum out wire (backendPoll b arq dt).1.recvFrame q) ∨
      ∃ p rest r, q = p :: rest ∧ pollRead arq = some r ∧ r.outcome = (.success, p) ∧
        InFlight checksum out wire (backendPoll b arq dt).1.recvFrame rest := by
  obtain ⟨items, item, rfl, ⟨hcap, hitems, hheld⟩, hout, hrec⟩ := h
  rw [backendPoll_recvFrame, pollWork_recvFrame]
  obtain ⟨pre, hacc, hstream⟩ | ⟨p, rest, rfl, hfull, rfl⟩ := hheld
  · rw [if_neg hacc.not_full]
    exact Or.inl ⟨pollRead_of_accumulating hacc.state,
      items, item, rfl, ⟨hcap, hitems, Or.inl ⟨pre, hacc, hstream⟩⟩, hout, hrec⟩
  · rw [if_pos hfull.state]
    refine Or.inr ⟨p, rest ++ item.toList, _, rfl, pollRead_of_full hfull.state, ?_, rest, item, rfl,
      ⟨hcap, ?_, Or.inl ⟨[], accumulating_rst hcap, rfl⟩⟩, hout, hrec⟩
    · rw [hsum]
      exact hfull.read (hitems p List.mem_cons_self).fits
    · intro r hr
      exact hitems r (List.mem_cons_of_mem _ hr)

end

/-! ## No two queues -/

section

variable {checksum : Checksum} {f : RecvFrame} {wire : List UInt8} {cap : Nat}
  {items items' : List (FrameHdr × List UInt8)}

theorem streamOf_injective (hitems : ∀ p ∈ items, Receivable cap p) (hitems' : ∀ p ∈ items', Receivable cap p)
    (h : streamOf checksum items = streamOf checksum items') : items = items' := by
  induction items generalizing items' with
  | nil =>
    cases items' with
    | nil => rfl
    | cons p' items' =>
      obtain ⟨body, -, -, hstream⟩ := streamOf_cons checksum items' (hitems' p' List.mem_cons_self)
      rw [hstream] at h
      exact absurd h.symm (by simp [streamOf])
  | cons p items ih =>
    obtain ⟨body, hbody, hnz, hstream⟩ := streamOf_cons checksum items (hitems p List.mem_cons_self)
    rw [hstream] at h
    cases items' with
    | nil => exact absurd h (by simp [streamOf])
    | cons p' items' =>
      obtain ⟨body', hbody', hnz', hstream'⟩ := streamOf_cons checksum items' (hitems' p' List.mem_cons_self)
      rw [hstream'] at h
      obtain ⟨rfl, hrest⟩ := first_zero_unique hnz hnz' h
      obtain ⟨hhdr, hseg⟩ := encodeFrame_injective (hitems p List.mem_cons_self).fits
        (hitems' p' List.mem_cons_self).fits (hbody.trans hbody'.symm)
      rw [Prod.ext hhdr hseg, ih (fun q hq => hitems q (List.mem_cons_of_mem _ hq))
        (fun q hq => hitems' q (List.mem_cons_of_mem _ hq)) hrest]

theorem FullFrame.unique {x y : List UInt8} (hx : FullFrame f x) (hy : FullFrame f y) : x = y := by
  rw [← hx.bytes, ← hy.bytes, ← hx.len, ← hy.len]

theorem Accumulating.unique {x y : List UInt8} (hx : Accumulating f x) (hy : Accumulating f y) : x = y := by
  rw [← hx.bytes, ← hy.bytes, ← hx.len, ← hy.len]

theorem Incoming.unique (h : Incoming checksum f wire items) (h' : Incoming checksum f wire items') :
    items = items' := by
  obtain ⟨-, hitems, hheld⟩ := h
  obtain ⟨-, hitems', hheld'⟩ := h'
  obtain ⟨pre, hacc, hstream⟩ | ⟨p, rest, rfl, hfull, rfl⟩ := hheld
  · obtain ⟨pre', hacc', hstream'⟩ | ⟨p', rest', rfl, hfull', rfl⟩ := hheld'
    · rw [hacc'.unique hacc] at hstream'
      exact streamOf_injective hitems hitems' (hstream.symm.trans hstream')
    · exact absurd hfull'.state hacc.not_full
  · obtain ⟨pre', hacc', -⟩ | ⟨p', rest', rfl, hfull', hrest⟩ := hheld'
    · exact absurd hfull.state hacc'.not_full
    · refine @streamOf_injective checksum f.cap _ _ hitems hitems' ?_
      simp only [streamOf, List.map_cons, List.flatten_cons] at hrest ⊢
      rw [hfull.unique hfull', hrest]

/-- The frames on their way are determined by the two frames and the wire. -/
theorem InFlight.unique {out : SendFrame} {q q' : List (FrameHdr × List UInt8)}
    (h : InFlight checksum out wire f q) (h' : InFlight checksum out wire f q') : q = q' := by
  obtain ⟨items, item, rfl, hin, hout, -⟩ := h
  obtain ⟨items', item', rfl, hin', hout', -⟩ := h'
  rw [hin.unique hin']
  cases hout with
  | idle hlen hstate =>
    cases hout' with
    | idle | taken => rfl
    | ready _ hlen' => rw [hlen, frameLen_eq] at hlen'; omega
  | taken hlen hstate =>
    cases hout' with
    | idle | taken => rfl
    | ready _ _ hstate' => exact absurd hstate hstate'
  | @ready p hfits hlen hstate hbytes =>
    cases hout' with
    | idle hlen' => rw [hlen', frameLen_eq] at hlen; omega
    | taken _ hstate' => exact absurd hstate' hstate
    | @ready p' hfits' hlen' hstate' hbytes' =>
      obtain ⟨hhdr, hseg⟩ := encodeFrame_injective hfits hfits' (hbytes.symm.trans hbytes')
      rw [Prod.ext hhdr hseg]

end

end NanoArq
