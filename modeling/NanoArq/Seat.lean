import NanoArq.Model.SeatMemory
import NanoArq.Sender.History

/-!
# Sizing and layout of the seat

`arq_required_size` runs `arq__alloc` without a seat, and `arq_init` runs it on one. The two runs
agree, and the blocks are laid out, if and only if no 32-bit sum wraps; `Lib.bump_sound_iff` is the
general statement. The lengths of five arrays are products that may wrap as well.

* `linAllocAlloc_eq`: one request is the step of the library's bump allocator.
* `arqInitSeat_iff`: `arq_init` succeeds if and only if the requests fit.
* `seat_sizing`: the condition.
-/

namespace NanoArq

open Lib

/-! ## The allocator -/

section

variable {a : LinAlloc} {bs : List Block} {len align n : Nat}

/-- The mask of the source rounds up, in 32 bits. -/
theorem seat_eq_alignUp (h : ∃ k, k ≤ 5 ∧ align = 2 ^ k) :
    u32 (n + (align - 1)) &&& not32 (align - 1) = alignUp align n % 4294967296 := by
  obtain ⟨k, hk, rfl⟩ := h
  have hpos : 0 < 2 ^ k := Nat.pow_pos (by omega)
  have hle : 2 ^ k ≤ 2 ^ 5 := Nat.pow_le_pow_right (by omega) hk
  have hmask : not32 (2 ^ k - 1) = 2 ^ 32 - 2 ^ k := by
    unfold not32
    omega
  have hsplit : 4294967296 = 2 ^ k * 2 ^ (32 - k) := by
    rw [← Nat.pow_add, Nat.add_sub_cancel' (by omega)]
  have hlt : u32 (n + (2 ^ k - 1)) < 2 ^ 32 := Nat.mod_lt _ (by omega)
  rw [hmask, and_mask hlt (by omega), alignUp, u32, hsplit, Nat.mod_mul_right_div_self,
    Nat.mul_comm (2 ^ k), Nat.mul_mod_mul_right]

theorem linAllocAlloc_eq (h : ∃ k, k ≤ 5 ∧ align = 2 ^ k) :
    linAllocAlloc a len align =
      if wrapTop 4294967296 a.size ⟨len, align⟩ > a.capacity then (a, 0)
      else ({ a with size := wrapTop 4294967296 a.size ⟨len, align⟩ },
        a.base + wrapPlace 4294967296 a.size ⟨len, align⟩) := by
  unfold linAllocAlloc
  rw [seat_eq_alignUp h]
  rfl

/-- Every alignment is one that the allocator asserts. -/
def PowAligns (bs : List Block) : Prop := ∀ b ∈ bs, ∃ k, k ≤ 5 ∧ b.align = 2 ^ k

theorem PowAligns.aligns (h : PowAligns bs) : Aligns 4294967296 bs := by
  intro b hb
  obtain ⟨k, hk, hpow⟩ := h b hb
  rw [hpow]
  exact ⟨Nat.pow_pos (by omega), Nat.pow_dvd_pow 2 (show k ≤ 32 by omega)⟩

/-- Requests that fit are placed as in the library. -/
theorem linAllocAll_of_fits (h : PowAligns bs) (hfits : Fits 4294967296 a.capacity a.size bs) :
    linAllocAll a bs = ({ a with size := finalTop 4294967296 a.size bs },
      (placed 4294967296 a.size bs).map fun p => a.base + p.ofs) := by
  induction bs generalizing a with
  | nil => rfl
  | cons b bs ih =>
    obtain ⟨hle, hrest⟩ := hfits
    have hstep := @linAllocAlloc_eq a b.len b.align (h b List.mem_cons_self)
    rw [if_neg (by exact Nat.not_lt.mpr hle)] at hstep
    simp only [linAllocAll, hstep]
    rw [ih (fun c hc => h c (List.mem_cons_of_mem b hc)) hrest]
    rfl

/-- One request that does not fit gets the null pointer. -/
theorem linAllocAll_of_not_fits (h : PowAligns bs)
    (hfits : ¬Fits 4294967296 a.capacity a.size bs) : 0 ∈ (linAllocAll a bs).2 := by
  induction bs generalizing a with
  | nil => exact absurd trivial hfits
  | cons b bs ih =>
    have hstep := @linAllocAlloc_eq a b.len b.align (h b List.mem_cons_self)
    by_cases hle : wrapTop 4294967296 a.size b ≤ a.capacity
    · rw [if_neg (by exact Nat.not_lt.mpr hle)] at hstep
      simp only [linAllocAll, hstep]
      apply List.mem_cons_of_mem
      exact ih (fun c hc => h c (List.mem_cons_of_mem b hc)) fun hrest => hfits ⟨hle, hrest⟩
    · rw [if_pos (by exact Nat.not_le.mp hle)] at hstep
      simp only [linAllocAll, hstep]
      exact List.mem_cons_self

end

/-! ## The seat of a configuration -/

section

variable {b : Build} {P : Platform} {cfg : Cfg} {base m : Nat} {seat arq : Arq} {p : SeatPtrs}

/-- The base has every alignment that `arq__alloc` asks for. -/
structure Platform.Aligned (P : Platform) (base : Nat) : Prop where
  arq : P.arq.align ∣ base
  time : P.time.align ∣ base
  msg : P.msg.align ∣ base

theorem seatBlocks_pow (P : Platform) (cfg : Cfg) : PowAligns (seatBlocks P cfg) := by
  have hone : ∃ k, k ≤ 5 ∧ 1 = 2 ^ k := ⟨0, by omega, rfl⟩
  intro b hb
  simp only [seatBlocks, List.mem_cons, List.not_mem_nil, or_false] at hb
  rcases hb with rfl | rfl | rfl | rfl | rfl | rfl | rfl | rfl | rfl
  · exact P.arq.align_pow
  · exact P.time.align_pow
  · exact P.msg.align_pow
  · exact hone
  · exact hone
  · exact P.msg.align_pow
  · exact hone
  · exact hone
  · exact hone

theorem seatBlocks_dvd (h : P.Aligned base) : ∀ b ∈ seatBlocks P cfg, b.align ∣ base := by
  intro b hb
  simp only [seatBlocks, List.mem_cons, List.not_mem_nil, or_false] at hb
  rcases hb with rfl | rfl | rfl | rfl | rfl | rfl | rfl | rfl | rfl
  · exact h.arq
  · exact h.time
  · exact h.msg
  · exact one_dvd base
  · exact one_dvd base
  · exact h.msg
  · exact one_dvd base
  · exact one_dvd base
  · exact one_dvd base

/-- The sizing run refuses nothing, and reports the final top. -/
theorem arqRequiredSize_eq (hcfg : checkCfg cfg = .okCompleted) :
    arqRequiredSize P cfg = .ok (finalTop 4294967296 0 (seatBlocks P cfg)) := by
  have hfits : Fits 4294967296 (4294967296 - 1) 0 (seatBlocks P cfg) := fits_top (by omega)
  rw [arqRequiredSize, if_pos hcfg, allocArq_size,
    @linAllocAll_of_fits (linAllocInit 0 (4294967296 - 1)) _ (seatBlocks_pow P cfg) hfits]
  rfl

theorem requiredSize_le_iff (hcfg : checkCfg cfg = .okCompleted) :
    (∃ n, arqRequiredSize P cfg = .ok n ∧ n ≤ m) ↔
      finalTop 4294967296 0 (seatBlocks P cfg) ≤ m := by
  rw [arqRequiredSize_eq hcfg]
  constructor
  · rintro ⟨n, hn, hle⟩
    rwa [Except.ok.inj hn]
  · intro hle
    exact ⟨_, rfl, hle⟩

/-- `Lib.bump_sound_iff` at the requests of a configuration. -/
theorem seatBlocks_sound_iff (P : Platform) (cfg : Cfg) :
    (∀ m < 4294967296,
      (Fits 4294967296 m 0 (seatBlocks P cfg) ↔
        finalTop 4294967296 0 (seatBlocks P cfg) ≤ m) ∧
      (Fits 4294967296 m 0 (seatBlocks P cfg) →
        LaidOut 0 m (placed 4294967296 0 (seatBlocks P cfg)))) ↔
      NoWrap 4294967296 0 (seatBlocks P cfg) :=
  bump_sound_iff (seatBlocks_pow P cfg).aligns P.arq.size_pos P.arq.size_lt

/-- The blocks of a seat at their pointers. -/
def seatPlaced (P : Platform) (cfg : Cfg) (p : SeatPtrs) : List Placed :=
  List.zipWith (fun b ofs => ⟨b, ofs⟩) (seatBlocks P cfg) p.list

theorem zipWith_placed (M top base : Nat) (bs : List Block) :
    List.zipWith (fun b ofs => ⟨b, ofs⟩) bs ((placed M top bs).map fun p => base + p.ofs) =
      (placed M top bs).map (Placed.shift base) := by
  induction bs generalizing top with
  | nil => rfl
  | cons b bs ih =>
    simp only [placed, List.map_cons, List.zipWith_cons_cons, ih]
    rfl

theorem placed_block {M top : Nat} {bs : List Block} {p : Placed} (h : p ∈ placed M top bs) :
    p.toBlock ∈ bs := by
  induction bs generalizing top with
  | nil => simp [placed] at h
  | cons b bs ih =>
    rcases List.mem_cons.mp h with rfl | hp
    · exact List.mem_cons_self
    · exact List.mem_cons_of_mem b (ih hp)

/-- `arq_init` succeeds if and only if the requests fit, and the blocks are then where the library
places them. -/
theorem arqInitSeat_iff (hcfg : checkCfg cfg = .okCompleted) (hbase : base ≠ 0) :
    (∃ r, arqInitSeat b P cfg base m seat = .ok r) ↔
      Fits 4294967296 m 0 (seatBlocks P cfg) := by
  constructor
  · rintro ⟨⟨arq, p⟩, hr⟩
    obtain ⟨-, rfl, hok⟩ := arqInitSeat_ok hr
    by_contra hfits
    have hzero := @linAllocAll_of_not_fits (linAllocInit base m) _ (seatBlocks_pow P cfg) hfits
    rw [← allocArq_list] at hzero
    exact absurd (List.all_eq_true.mp hok 0 hzero) (by decide)
  · intro hfits
    have hok : (allocArq P cfg (linAllocInit base m)).2.ok := by
      rw [SeatPtrs.ok, allocArq_list,
        @linAllocAll_of_fits (linAllocInit base m) _ (seatBlocks_pow P cfg) hfits]
      simp only [List.all_map, List.all_eq_true, Function.comp_apply, bne_iff_ne, linAllocInit]
      omega
    exact ⟨_, by rw [arqInitSeat, if_neg hbase, if_neg (not_not.mpr hcfg)]; exact if_pos hok⟩

theorem arqInitSeat_placed (hcfg : checkCfg cfg = .okCompleted) (hbase : base ≠ 0)
    (h : arqInitSeat b P cfg base m seat = .ok (arq, p)) :
    seatPlaced P cfg p = (placed 4294967296 0 (seatBlocks P cfg)).map (Placed.shift base) := by
  have hfits := (arqInitSeat_iff hcfg hbase).mp ⟨_, h⟩
  obtain ⟨-, rfl, -⟩ := arqInitSeat_ok h
  rw [seatPlaced, allocArq_list,
    @linAllocAll_of_fits (linAllocInit base m) _ (seatBlocks_pow P cfg) hfits]
  exact zipWith_placed _ _ _ _

/-- Where no sum wraps, the last three arrays are adjacent, as `Arq.placed` has them. -/
theorem arqInitSeat_adjacent (hcfg : checkCfg cfg = .okCompleted) (hbase : base ≠ 0)
    (hwrap : NoWrap 4294967296 0 (seatBlocks P cfg))
    (h : arqInitSeat b P cfg base m seat = .ok (arq, p)) :
    p.sendFrame = p.recvBuf + recvBufLen cfg ∧ p.recvFrame = p.recvBuf + recvFrameOfs cfg := by
  have hfits := (arqInitSeat_iff hcfg hbase).mp ⟨_, h⟩
  obtain ⟨-, rfl, -⟩ := arqInitSeat_ok h
  have hblocks : seatBlocks P cfg = (seatBlocks P cfg).take 6 ++
      [⟨recvBufLen cfg, 1⟩, ⟨frameBufLen cfg, 1⟩, ⟨frameBufLen cfg, 1⟩] := rfl
  have hlist := congrArg (List.drop 6) (allocArq_list P cfg (linAllocInit base m))
  rw [@linAllocAll_of_fits (linAllocInit base m) _ (seatBlocks_pow P cfg) hfits, hblocks,
    placed_append, List.map_append] at hlist
  rw [hblocks] at hwrap
  have hofs := hwrap.drop.adjacent
  have htail : [(allocArq P cfg (linAllocInit base m)).2.recvBuf,
      (allocArq P cfg (linAllocInit base m)).2.sendFrame,
      (allocArq P cfg (linAllocInit base m)).2.recvFrame] =
      (placed 4294967296 (finalTop 4294967296 0 ((seatBlocks P cfg).take 6))
        [⟨recvBufLen cfg, 1⟩, ⟨frameBufLen cfg, 1⟩, ⟨frameBufLen cfg, 1⟩]).map
          (fun q => base + q.ofs) := hlist
  generalize placed 4294967296 (finalTop 4294967296 0 ((seatBlocks P cfg).take 6)) _ = qs at hofs htail
  rw [show (fun q : Placed => base + q.ofs) = (base + ·) ∘ Placed.ofs from rfl, ← List.map_map, hofs]
    at htail
  simp only [List.map_cons, List.map_nil, List.cons.injEq, and_true] at htail
  obtain ⟨hwnd, hsend, hrecv⟩ := htail
  rw [hsend, hrecv, hwnd, recvFrameOfs]
  omega

/-! ## Lengths -/

/-- How much of each block the code indexes. -/
def seatIndexed (P : Platform) (arq : Arq) : List Nat :=
  let sw := arq.sendWnd.w
  let rw := arq.recvWnd.w
  [P.arq.size, P.time.size * sw.cap, P.msg.size * sw.cap, sw.cap * sw.msgLen, rw.cap,
    P.msg.size * rw.cap, rw.cap * rw.msgLen, arq.sendFrame.cap, arq.recvFrame.cap]

/-- Every block is as long as the code indexes it. -/
def SeatLong (P : Platform) (cfg : Cfg) (arq : Arq) : Prop :=
  List.Forall₂ (fun b n => n ≤ b.len) (seatBlocks P cfg) (seatIndexed P arq)

/-- No product of a length is cut by so much that the array is shorter than its indices: those are
16-bit values. -/
structure ProductsFit (P : Platform) (cfg : Cfg) : Prop where
  rtx : P.time.size * u16 cfg.sendWindowSizeInMessages ≤
    u32 (P.time.size * cfg.sendWindowSizeInMessages)
  sendMsg : P.msg.size * u16 cfg.sendWindowSizeInMessages ≤
    u32 (P.msg.size * cfg.sendWindowSizeInMessages)
  sendBuf : u16 cfg.sendWindowSizeInMessages *
      u16 (cfg.messageLengthInSegments * cfg.segmentLengthInBytes) ≤
    u32 (cfg.sendWindowSizeInMessages *
      (cfg.messageLengthInSegments * cfg.segmentLengthInBytes))
  recvMsg : P.msg.size * u16 cfg.recvWindowSizeInMessages ≤
    u32 (P.msg.size * cfg.recvWindowSizeInMessages)
  recvBuf : u16 cfg.recvWindowSizeInMessages *
      u16 (cfg.messageLengthInSegments * cfg.segmentLengthInBytes) ≤
    u32 (cfg.recvWindowSizeInMessages *
      (cfg.messageLengthInSegments * cfg.segmentLengthInBytes))

theorem u16_le_u32 (x : Nat) : u16 x ≤ u32 x := by
  unfold u16 u32
  omega

theorem seatLong_iff (h : arqInit b cfg seat = .ok arq) :
    SeatLong P cfg arq ↔ ProductsFit P cfg := by
  unfold arqInit at h
  split_ifs at h
  obtain rfl := Except.ok.inj h
  have hack : u16 cfg.recvWindowSizeInMessages ≤ cfg.recvWindowSizeInMessages := Nat.mod_le _ _
  have hframe := u16_le_u32 (frameLen cfg.segmentLengthInBytes)
  constructor
  · intro hlong
    obtain _ | ⟨-, _ | ⟨hrtx, _ | ⟨hsendMsg, _ | ⟨hsendBuf, _ | ⟨-, _ | ⟨hrecvMsg,
      _ | ⟨hrecvBuf, -⟩⟩⟩⟩⟩⟩⟩ := hlong
    exact ⟨hrtx, hsendMsg, hsendBuf, hrecvMsg, hrecvBuf⟩
  · rintro ⟨hrtx, hsendMsg, hsendBuf, hrecvMsg, hrecvBuf⟩
    exact .cons (Nat.le_refl _) <| .cons hrtx <| .cons hsendMsg <| .cons hsendBuf <| .cons hack <|
      .cons hrecvMsg <| .cons hrecvBuf <| .cons hframe <| .cons hframe .nil

/-! ## Sizing and layout -/

/-- The instance and its eight arrays are laid out in the seat, and each is long enough. -/
structure SeatSound (P : Platform) (cfg : Cfg) (base m : Nat) (arq : Arq) (p : SeatPtrs) :
    Prop where
  laidOut : LaidOut base m (seatPlaced P cfg p)
  long : SeatLong P cfg arq

/-- `arq_init` succeeds on the seats that are as large as `arq_required_size` reports, and the
seat is then sound. -/
def SeatSizing (b : Build) (P : Platform) (cfg : Cfg) (base : Nat) : Prop :=
  ∀ m < 4294967296, ∀ seat,
    ((∃ r, arqInitSeat b P cfg base m seat = .ok r) ↔
      ∃ n, arqRequiredSize P cfg = .ok n ∧ n ≤ m) ∧
    ∀ arq p, arqInitSeat b P cfg base m seat = .ok (arq, p) → SeatSound P cfg base m arq p

theorem laidOut_seat (hcfg : checkCfg cfg = .okCompleted) (hbase : base ≠ 0)
    (haligned : P.Aligned base) (h : arqInitSeat b P cfg base m seat = .ok (arq, p)) :
    LaidOut base m (seatPlaced P cfg p) ↔
      LaidOut 0 m (placed 4294967296 0 (seatBlocks P cfg)) := by
  rw [arqInitSeat_placed hcfg hbase h]
  exact laidOut_shift fun q hq => seatBlocks_dvd haligned _ (placed_block hq)

/-- Sizing run and real run agree on a sound seat if and only if neither the sum of the sizes nor
the length of an array is cut. -/
theorem seat_sizing (b : Build) (P : Platform) (cfg : Cfg) (base : Nat)
    (hcfg : checkCfg cfg = .okCompleted) (hbase : base ≠ 0) (haligned : P.Aligned base) :
    SeatSizing b P cfg base ↔
      NoWrap 4294967296 0 (seatBlocks P cfg) ∧ ProductsFit P cfg := by
  rw [← seatBlocks_sound_iff]
  constructor
  · intro h
    refine ⟨fun m hm => ?_, ?_⟩
    · obtain ⟨hsize, hsound⟩ := h m hm (zeroSeat cfg)
      rw [arqInitSeat_iff hcfg hbase, requiredSize_le_iff hcfg] at hsize
      refine ⟨hsize, fun hfits => ?_⟩
      obtain ⟨⟨arq, p⟩, hr⟩ := (@arqInitSeat_iff b P cfg base m (zeroSeat cfg) hcfg hbase).mpr hfits
      exact (laidOut_seat hcfg hbase haligned hr).mp (hsound arq p hr).laidOut
    · -- the largest seat is never refused
      have hfits : Fits 4294967296 (4294967296 - 1) 0 (seatBlocks P cfg) := fits_top (by omega)
      obtain ⟨⟨arq, p⟩, hr⟩ :=
        (@arqInitSeat_iff b P cfg base _ (zeroSeat cfg) hcfg hbase).mpr hfits
      have hsound := (h _ (by omega) (zeroSeat cfg)).2 arq p hr
      exact (seatLong_iff (arqInitSeat_ok hr).1).mp hsound.long
  · rintro ⟨hbump, hproducts⟩ m hm seat
    obtain ⟨hsize, hlaid⟩ := hbump m hm
    refine ⟨?_, fun arq p hr => ⟨?_, (seatLong_iff (arqInitSeat_ok hr).1).mpr hproducts⟩⟩
    · rw [arqInitSeat_iff hcfg hbase, requiredSize_le_iff hcfg]
      exact hsize
    · exact (laidOut_seat hcfg hbase haligned hr).mpr
        (hlaid ((arqInitSeat_iff hcfg hbase).mp ⟨_, hr⟩))

end

/-- Sizes and alignments where pointers take eight bytes. -/
def lp64 : Platform where
  arq := ⟨264, 8, by omega, by omega, ⟨3, by omega, rfl⟩⟩
  time := ⟨4, 4, by omega, by omega, ⟨2, by omega, rfl⟩⟩
  msg := ⟨6, 2, by omega, by omega, ⟨1, by omega, rfl⟩⟩

/-- Messages of twelve segments of 256 bytes, and a send window of 1398102 messages. -/
def wideCfg : Cfg := { smallCfg 256 12 1 with sendWindowSizeInMessages := 1398102 }

/-- Messages of three segments of five bytes: a byte of padding stands before the messages of the
receive window. -/
def oddCfg : Cfg := { smallCfg 5 3 8 with sendWindowSizeInMessages := 9 }

theorem seat_sizing_sample :
    arqRequiredSize lp64 oddCfg = .ok 712 ∧ SeatSizing ⟨true⟩ lp64 oddCfg 4104 := by
  refine ⟨by decide +kernel, ?_⟩
  refine (seat_sizing ⟨true⟩ lp64 oddCfg 4104 (by decide) (by decide)
    ⟨by decide, by decide, by decide⟩).mpr ⟨by decide, ?_⟩
  constructor <;> decide

/-- The send buffer gets 2048 bytes, for 67110912 bytes that are indexed. -/
theorem send_buffer_cut :
    checkCfg wideCfg = .okCompleted ∧ lp64.Aligned 4096 ∧
      arqRequiredSize lp64 wideCfg = .ok 13986960 ∧
      (seatBlocks lp64 wideCfg)[3] = ⟨2048, 1⟩ ∧
      (seatIndexed lp64 (freshArq ⟨false⟩ wideCfg))[3] = 67110912 ∧
      ¬SeatSizing ⟨false⟩ lp64 wideCfg 4096 := by
  have hcfg : checkCfg wideCfg = .okCompleted := by decide
  refine ⟨hcfg, ⟨by decide, by decide, by decide⟩, ?_, ?_, ?_, fun h => ?_⟩
  · decide +kernel
  · decide +kernel
  · decide +kernel
  · obtain ⟨hsize, hsound⟩ := h (4294967296 - 1) (by omega) (zeroSeat wideCfg)
    obtain ⟨⟨arq, p⟩, hr⟩ := hsize.mpr ⟨_, arqRequiredSize_eq hcfg, by decide +kernel⟩
    have hproducts := (seatLong_iff (arqInitSeat_ok hr).1).mp (hsound arq p hr).long
    exact absurd hproducts.sendBuf (by decide)

end NanoArq
