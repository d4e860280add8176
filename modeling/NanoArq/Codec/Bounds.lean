import NanoArq.Codec.Accumulate

/-!
# The bytes that `arq__frame_read` touches

`frameReadCells m len` lists every address of the frame that `arq__frame_read` reads or writes:
the code bytes that `arq__cobs_decode` visits, the twelve header bytes, which are taken before any
length is known, and the bytes of segment and checksum, which are taken only when the length
check lets them through. `frameRead_touches` says that nothing else is read or written.

On a buffer filled by `arq__recv_frame_fill` all of them lie below the capacity, since only the
last byte of a frame is zero (`Received`, `frameRead_in_bounds`).
-/

namespace NanoArq

open Lib

/-! ## Addresses -/

/-- The addresses the loop of `arq__cobs_decode` visits. -/
def cobsDecodeCells (e : Nat) : Nat → Buf → Nat → List Nat
  | 0, _, _ => []
  | fuel + 1, m, c =>
    if c < e then c :: cobsDecodeCells e fuel (Function.update m c 0) (c + (m c).toNat) else []

/-- The addresses `arq__frame_checksum_read` reads: the checksum, and what it is the checksum of. -/
def frameChecksumReadCells (len segLen : Nat) : List Nat :=
  if frameLen segLen > len then []
  else List.range' (1 + frameHeaderSize + segLen) 4 ++ List.range' 1 (frameHeaderSize + segLen)

/-- The addresses `arq__frame_read` reads or writes. -/
def frameReadCells (m : Buf) (len : Nat) : List Nat :=
  cobsDecodeCells (len - 1) (len - 1) m 0 ++
    (List.range' 1 frameHeaderSize ++
      frameChecksumReadCells len (frameHdrRead (cobsDecode m len) 1).segLen)

theorem cobsDecodeCells_lt (e : Nat) :
    ∀ (fuel : Nat) (m : Buf) (c a : Nat), a ∈ cobsDecodeCells e fuel m c → a < e := by
  intro fuel
  induction fuel with
  | zero => exact fun _ _ _ h => absurd h List.not_mem_nil
  | succ fuel ih =>
    intro m c a h
    unfold cobsDecodeCells at h
    split at h
    · rename_i hlt
      rcases List.mem_cons.mp h with rfl | h
      · exact hlt
      · exact ih _ _ a h
    · exact absurd h List.not_mem_nil

theorem cobsDecodeGo_of_not_mem (e : Nat) :
    ∀ (fuel : Nat) (m : Buf) (c : Nat) {a : Nat}, a ∉ cobsDecodeCells e fuel m c →
      (cobsDecodeGo e fuel m c).1 a = m a := by
  intro fuel
  induction fuel with
  | zero => exact fun _ _ _ _ => rfl
  | succ fuel ih =>
    intro m c a h
    unfold cobsDecodeCells at h
    unfold cobsDecodeGo
    split at h
    · rename_i hlt
      obtain ⟨hne, hrest⟩ := List.ne_and_not_mem_of_not_mem_cons h
      rw [if_pos hlt, ih _ _ hrest, Function.update_of_ne hne]
    · rename_i hge
      rw [if_neg hge]

/-- Two buffers that agree where the decoder looks are decoded alike. -/
theorem cobsDecodeGo_congr (e : Nat) :
    ∀ (fuel : Nat) (m m' : Buf) (c : Nat), (∀ a ∈ cobsDecodeCells e fuel m c, m' a = m a) →
      (cobsDecodeGo e fuel m' c).2 = (cobsDecodeGo e fuel m c).2 ∧
        ∀ a, m' a = m a → (cobsDecodeGo e fuel m' c).1 a = (cobsDecodeGo e fuel m c).1 a := by
  intro fuel
  induction fuel with
  | zero => exact fun _ _ _ _ => ⟨rfl, fun _ h => h⟩
  | succ fuel ih =>
    intro m m' c h
    unfold cobsDecodeCells at h
    unfold cobsDecodeGo
    by_cases hlt : c < e
    · rw [if_pos hlt] at h
      have hcode : m' c = m c := h c List.mem_cons_self
      -- the cell under the cursor is zero afterwards in both buffers
      have hkeep : ∀ a, m' a = m a → Function.update m' c 0 a = Function.update m c 0 a := by
        intro a ha
        by_cases hac : a = c
        · rw [hac, Function.update_self, Function.update_self]
        · rw [Function.update_of_ne hac, Function.update_of_ne hac, ha]
      obtain ⟨hcursor, hcells⟩ := ih (Function.update m c 0) (Function.update m' c 0)
        (c + (m c).toNat) (fun a ha => hkeep a (h a (List.mem_cons_of_mem _ ha)))
      rw [if_pos hlt, if_pos hlt, hcode]
      exact ⟨hcursor, fun a ha => hcells a (hkeep a ha)⟩
    · rw [if_neg hlt, if_neg hlt]
      exact ⟨rfl, fun _ ha => ha⟩

/-- A loop that has ended stays where it is. -/
theorem cobsDecodeGo_more {e : Nat} {more : Nat} :
    ∀ {fuel : Nat} {m : Buf} {c : Nat}, e ≤ (cobsDecodeGo e fuel m c).2 →
      cobsDecodeGo e (fuel + more) m c = cobsDecodeGo e fuel m c := by
  intro fuel
  induction fuel with
  | zero =>
    intro m c h
    cases more with
    | zero => rfl
    | succ more => exact if_neg (Nat.not_lt.mpr h)
  | succ fuel ih =>
    intro m c h
    rw [Nat.succ_add]
    unfold cobsDecodeGo at h ⊢
    by_cases hlt : c < e
    · rw [if_pos hlt] at h
      rw [if_pos hlt, if_pos hlt]
      exact ih h
    · rw [if_neg hlt, if_neg hlt]

theorem frameHdrRead_congr {m m' : Buf}
    (h : ∀ j, j < frameHeaderSize → m' (1 + j) = m (1 + j)) :
    frameHdrRead m' 1 = frameHdrRead m 1 := by
  have hbyte : ∀ j, j < 12 → m' (1 + j) = m (1 + j) := h
  have h0 : m' 1 = m 1 := hbyte 0 (by omega)
  simp only [frameHdrRead, h0, hbyte 1 (by omega), hbyte 2 (by omega), hbyte 3 (by omega),
    hbyte 4 (by omega), hbyte 5 (by omega), hbyte 6 (by omega), hbyte 7 (by omega),
    hbyte 8 (by omega), hbyte 9 (by omega), hbyte 10 (by omega), hbyte 11 (by omega)]

theorem be32Read_congr {m m' : Buf} {ofs : Nat} (h : ∀ j, j < 4 → m' (ofs + j) = m (ofs + j)) :
    be32Read m' ofs = be32Read m ofs := by
  have h0 : m' ofs = m ofs := h 0 (by omega)
  simp only [be32Read, h0, h 1 (by omega), h 2 (by omega), h 3 (by omega)]

theorem frameChecksumRead_congr {m m' : Buf} {len segLen : Nat} (checksum : Checksum)
    (h : ∀ a ∈ frameChecksumReadCells len segLen, m' a = m a) :
    frameChecksumRead m' len segLen checksum = frameChecksumRead m len segLen checksum := by
  unfold frameChecksumReadCells at h
  unfold frameChecksumRead
  by_cases hlong : frameLen segLen > len
  · rw [if_pos hlong, if_pos hlong]
  · rw [if_neg hlong] at h
    have hword : be32Read m' (1 + frameHeaderSize + segLen) =
        be32Read m (1 + frameHeaderSize + segLen) := by
      apply be32Read_congr
      intro j hj
      apply h
      exact List.mem_append_left _ (List.mem_range'_1.mpr ⟨by omega, by omega⟩)
    have hbody : slice m' 1 (frameHeaderSize + segLen) = slice m 1 (frameHeaderSize + segLen) := by
      rw [slice_eq_iff]
      intro j hj
      apply h
      exact List.mem_append_right _ (List.mem_range'_1.mpr ⟨by omega, by omega⟩)
    rw [if_neg hlong, if_neg hlong, hword, hbody]

/-- `frameReadCells` names every byte of the frame that `arq__frame_read` depends on or changes. -/
structure FrameReadTouches (m : Buf) (len : Nat) (checksum : Checksum) (cells : List Nat) :
    Prop where
  writes : ∀ a, a ∉ cells → (frameRead m len checksum).buf a = m a
  reads : ∀ m' : Buf, (∀ a ∈ cells, m' a = m a) →
    (frameRead m' len checksum).result = (frameRead m len checksum).result ∧
      (frameRead m' len checksum).hdr = (frameRead m len checksum).hdr ∧
      ∀ a ∈ cells, (frameRead m' len checksum).buf a = (frameRead m len checksum).buf a

theorem frameRead_touches (m : Buf) (len : Nat) (checksum : Checksum) :
    FrameReadTouches m len checksum (frameReadCells m len) := by
  refine ⟨?_, ?_⟩
  · intro a ha
    exact cobsDecodeGo_of_not_mem _ _ _ _ fun hmem => ha (List.mem_append_left _ hmem)
  · intro m' h
    obtain ⟨-, hdec⟩ := cobsDecodeGo_congr (len - 1) (len - 1) m m' 0
      fun a ha => h a (List.mem_append_left _ ha)
    have hcells : ∀ a ∈ frameReadCells m len, cobsDecode m' len a = cobsDecode m len a :=
      fun a ha => hdec a (h a ha)
    have hhdr : frameHdrRead (cobsDecode m' len) 1 = frameHdrRead (cobsDecode m len) 1 := by
      apply frameHdrRead_congr
      intro j hj
      apply hcells
      apply List.mem_append_right
      exact List.mem_append_left _ (List.mem_range'_1.mpr ⟨by omega, by omega⟩)
    have hsum := @frameChecksumRead_congr (cobsDecode m len) (cobsDecode m' len) len
      (frameHdrRead (cobsDecode m len) 1).segLen checksum fun a ha =>
        hcells a (List.mem_append_right _ (List.mem_append_right _ ha))
    refine ⟨?_, hhdr, hcells⟩
    simp only [frameRead]
    rw [hhdr, hsum]

theorem frameRead_success {m : Buf} {len : Nat} {checksum : Checksum}
    (h : (frameRead m len checksum).result = .success) :
    frameLen (frameRead m len checksum).hdr.segLen ≤ len := by
  simp only [frameRead] at h ⊢
  by_contra hlong
  rw [frameChecksumRead, if_pos (Nat.lt_of_not_le hlong)] at h
  cases h

/-! ## Accumulated frames -/

/-- What a reset receive frame becomes by calls of `arq__recv_frame_fill`: it still accumulates, or
it holds nonzero bytes and the zero that completed them. -/
inductive Received (f : RecvFrame) : Prop
  | accumulating (pre : List UInt8) (h : Accumulating f pre)
  | full (x : List UInt8) (h : FullFrame f (x ++ [0])) (hx : ∀ b ∈ x, b ≠ 0) (hfits : x.length < f.cap)

theorem Received.fill {f : RecvFrame} (h : Received f) (src : List UInt8) :
    Received (recvFrameFill f src).1 := by
  cases h with
  | accumulating pre hacc =>
    rcases recvFrameFill_cases hacc src with ⟨hacc', -⟩ | ⟨a, c, -, ha, hlen, hfull, -⟩ |
      ⟨a, c, -, -, -, hacc', -⟩
    · exact .accumulating _ hacc'
    · rw [← List.append_assoc] at hfull
      refine .full (pre ++ a) hfull ?_ ?_
      · intro b hb
        exact (List.mem_append.mp hb).elim (hacc.nonzero b) (ha b)
      · rw [List.length_append, recvFrameFill_cap]
        exact hlen
    · exact .accumulating _ hacc'
  | full x hfull hx hfits =>
    rw [recvFrameFill, if_pos hfull.state]
    exact .full x hfull hx hfits

/-- The calls of `arq__recv_frame_fill` on the chunks `chunks`. -/
def recvFrameFills (f : RecvFrame) (chunks : List (List UInt8)) : RecvFrame :=
  chunks.foldl (fun f src => (recvFrameFill f src).1) f

theorem recvFrameFills_received {f : RecvFrame} (h : Received f) (chunks : List (List UInt8)) :
    Received (recvFrameFills f chunks) ∧ (recvFrameFills f chunks).cap = f.cap := by
  induction chunks generalizing f with
  | nil => exact ⟨h, rfl⟩
  | cons src chunks ih =>
    obtain ⟨hrec, hcap⟩ := ih (h.fill src)
    exact ⟨hrec, hcap.trans (recvFrameFill_cap f src)⟩

section

variable {f : RecvFrame}

theorem Received.ends (h : Received f) (hfull : f.state = .fullFramePresent) :
    DecodeEnds f ∧ 0 < f.len ∧ f.len ≤ f.cap := by
  cases h with
  | accumulating pre hacc => exact absurd hfull hacc.not_full
  | full x hx hnz hfits =>
    refine ⟨decodeEnds_of_full hnz hx, ?_, ?_⟩
    · rw [hx.len, List.length_append]
      exact Nat.succ_pos _
    · rw [hx.len, List.length_append]
      exact hfits

/-- Every address below `len`, and those of a header, when the buffer has room for one. -/
theorem frameReadCells_lt {m : Buf} {len cap a : Nat} (hlen : len ≤ cap)
    (hcap : frameLen 0 ≤ cap) (ha : a ∈ frameReadCells m len) : a < cap := by
  rw [frameLen_eq] at hcap
  rcases List.mem_append.mp ha with ha | ha
  · have := cobsDecodeCells_lt _ _ _ _ a ha
    omega
  rcases List.mem_append.mp ha with ha | ha
  · have := (List.mem_range'_1.mp ha).2
    simp only [frameHeaderSize] at this
    omega
  · unfold frameChecksumReadCells at ha
    split at ha
    · exact absurd ha List.not_mem_nil
    · rename_i hlong
      rw [frameLen_eq] at hlong
      simp only [frameHeaderSize] at ha
      rcases List.mem_append.mp ha with ha | ha
      · have := (List.mem_range'_1.mp ha).2
        omega
      · have := (List.mem_range'_1.mp ha).2
        omega

/-- What `arq__frame_read` does on a frame is over after finitely many rounds and stays inside its
buffer, and on success inside the bytes received. -/
structure FrameReadInBounds (f : RecvFrame) (checksum : Checksum) : Prop where
  ends : ∀ rounds, f.len - 1 ≤ rounds →
    f.len - 1 ≤ (cobsDecodeGo (f.len - 1) rounds f.buf 0).2 ∧
      (cobsDecodeGo (f.len - 1) rounds f.buf 0).1 = cobsDecode f.buf f.len
  cells : ∀ a ∈ frameReadCells f.buf f.len, a < f.cap
  touches : FrameReadTouches f.buf f.len checksum (frameReadCells f.buf f.len)
  received : f.len ≤ f.cap
  success : (frameRead f.buf f.len checksum).result = .success →
    18 + (frameRead f.buf f.len checksum).hdr.segLen ≤ f.len

theorem Received.inBounds (h : Received f) (hfull : f.state = .fullFramePresent)
    (hcap : frameLen 0 ≤ f.cap) (checksum : Checksum) : FrameReadInBounds f checksum := by
  obtain ⟨hends, -, hlen⟩ := h.ends hfull
  refine ⟨?_, fun a ha => frameReadCells_lt hlen hcap ha, frameRead_touches _ _ _, hlen, ?_⟩
  · intro rounds hrounds
    obtain ⟨more, rfl⟩ := Nat.exists_eq_add_of_le hrounds
    rw [cobsDecodeGo_more hends]
    exact ⟨hends, rfl⟩
  · intro hok
    rw [← frameLen_eq]
    exact frameRead_success hok

end

/-- **Reading in bounds.** Whatever bytes complete a frame, in whatever chunks and on whatever
buffer: the decoder's loop ends, `arq__frame_read` touches addresses below the capacity only, and
it succeeds only on a frame that holds the segment and the checksum it used. -/
theorem frameRead_in_bounds (seat : RecvFrame) {segLen : Nat} (hpos : 1 ≤ segLen)
    (hseg : segLen ≤ 238) (chunks : List (List UInt8)) (checksum : Checksum)
    (hfull : (recvFrameFills (recvFrameRst (recvFrameInit seat (frameLen segLen))) chunks).state =
      .fullFramePresent) :
    (recvFrameFills (recvFrameRst (recvFrameInit seat (frameLen segLen))) chunks).cap =
        frameLen segLen ∧
      FrameReadInBounds (recvFrameFills (recvFrameRst (recvFrameInit seat (frameLen segLen))) chunks)
        checksum := by
  have hinit : (recvFrameRst (recvFrameInit seat (frameLen segLen))).cap = frameLen segLen :=
    u16_of_lt (by rw [frameLen_eq]; omega)
  have hstart : Accumulating (recvFrameRst (recvFrameInit seat (frameLen segLen))) [] :=
    accumulating_rst (Nat.mod_lt _ (by omega))
  obtain ⟨hrec, hcap⟩ := recvFrameFills_received (.accumulating [] hstart) chunks
  rw [hinit] at hcap
  refine ⟨hcap, hrec.inBounds hfull ?_ checksum⟩
  rw [hcap, frameLen_eq, frameLen_eq]
  omega

theorem frameRead_in_bounds_sample :
    (recvFrameFills (recvFrameRst (recvFrameInit ⟨fun _ => 9, .accumulating, 7, 5⟩ (frameLen 1)))
          [[3, 7], [1, 0, 4]]).cap = frameLen 1 ∧
      FrameReadInBounds (recvFrameFills
          (recvFrameRst (recvFrameInit ⟨fun _ => 9, .accumulating, 7, 5⟩ (frameLen 1)))
          [[3, 7], [1, 0, 4]]) fun _ => 0 :=
  frameRead_in_bounds ⟨fun _ => 9, .accumulating, 7, 5⟩ Nat.le.refl (by omega) [[3, 7], [1, 0, 4]]
    (fun _ => 0) rfl

end NanoArq
