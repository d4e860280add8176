import Mathlib.Data.Nat.Bitwise
import Mathlib.Data.List.Basic
import Mathlib.Tactic.Common

/-!
# Bump allocation

A bump allocator hands out blocks of one region in turn, each at the next multiple of its alignment
behind the previous one. Where its top is a machine word, it wraps at `M`.

* `Fits M cap top bs`: the top never exceeds `cap`, so that no request is refused.
* `LaidOut`: the blocks are aligned, apart from each other and inside the region.
* `bump_sound_iff`: the final top is the size that all blocks need, and they are laid out, if and
  only if the top never wraps.
-/

namespace Lib

/-! ## Alignment -/

/-- The next multiple of `align`. -/
def alignUp (align n : Nat) : Nat := (n + (align - 1)) / align * align

section

variable {align n M : Nat}

theorem alignUp_bounds (h : 0 < align) : n ≤ alignUp align n ∧ alignUp align n < n + align := by
  have hdiv := Nat.div_add_mod' (n + (align - 1)) align
  have hmod := Nat.mod_lt (n + (align - 1)) h
  unfold alignUp
  omega

theorem dvd_alignUp (align n : Nat) : align ∣ alignUp align n := Nat.dvd_mul_left _ _

theorem alignUp_zero (h : 0 < align) : alignUp align 0 = 0 := by
  rw [alignUp, Nat.div_eq_of_lt (by omega), Nat.zero_mul]

/-- The first multiple from `M` on is `M` itself. -/
theorem alignUp_wrap (h : 0 < align) (hdvd : align ∣ M) (hn : n < M) (hM : M ≤ alignUp align n) :
    alignUp align n = M := by
  obtain ⟨-, hlt⟩ := @alignUp_bounds align n h
  have hsub : align ∣ alignUp align n - M := Nat.dvd_sub (dvd_alignUp _ _) hdvd
  have := Nat.eq_zero_of_dvd_of_lt hsub (by omega)
  omega

/-- Clearing the low `k` of `w` bits rounds down. -/
theorem and_mask {w k x : Nat} (hx : x < 2 ^ w) (hk : k ≤ w) :
    x &&& (2 ^ w - 2 ^ k) = x / 2 ^ k * 2 ^ k := by
  have hmask : 2 ^ w - 2 ^ k = (2 ^ (w - k) - 1) * 2 ^ k := by
    rw [Nat.sub_mul, ← Nat.pow_add, Nat.sub_add_cancel hk, Nat.one_mul]
  apply Nat.eq_of_testBit_eq
  intro i
  rw [hmask, Nat.testBit_and, Nat.testBit_mul_two_pow, Nat.testBit_mul_two_pow,
    Nat.testBit_two_pow_sub_one, Nat.testBit_div_two_pow]
  by_cases hki : k ≤ i
  · rw [Nat.sub_add_cancel hki]
    by_cases hw : i < w
    · simp [hki, show i - k < w - k by omega]
    · have hbig : x < 2 ^ i := Nat.lt_of_lt_of_le hx (Nat.pow_le_pow_right (by omega) (by omega))
      simp [Nat.testBit_lt_two_pow hbig]
  · simp [hki]

end

/-! ## Blocks -/

/-- A request for `len` bytes, aligned to `align`. -/
structure Block where
  len : Nat
  align : Nat
deriving DecidableEq, Repr

/-- A block at the offset `ofs`. -/
structure Placed extends Block where
  ofs : Nat
deriving DecidableEq, Repr

/-- No address lies in both blocks. -/
def Apart (p q : Placed) : Prop :=
  ∀ n, p.ofs ≤ n → n < p.ofs + p.len → ¬(q.ofs ≤ n ∧ n < q.ofs + q.len)

theorem Apart.of_le {p q : Placed} (h : p.ofs + p.len ≤ q.ofs) : Apart p q :=
  fun _ _ hlt hq => Nat.lt_irrefl _ (Nat.lt_of_lt_of_le hlt (Nat.le_trans h hq.1))

/-- The blocks are a layout of the region of `m` bytes at `base`. -/
structure LaidOut (base m : Nat) (ps : List Placed) : Prop where
  inside : ∀ p ∈ ps, base ≤ p.ofs ∧ p.ofs + p.len ≤ base + m
  aligned : ∀ p ∈ ps, p.align ∣ p.ofs
  apart : ps.Pairwise Apart

/-- The same block, counted from another base. -/
def Placed.shift (base : Nat) (p : Placed) : Placed := { p with ofs := base + p.ofs }

theorem apart_shift {base : Nat} {p q : Placed} :
    Apart (p.shift base) (q.shift base) ↔ Apart p q := by
  unfold Apart Placed.shift
  constructor
  · intro h n hle hlt hq
    exact h (base + n) (by dsimp only; omega) (by dsimp only; omega) (by dsimp only; omega)
  · intro h n hle hlt hq
    dsimp only at hle hlt hq
    exact h (n - base) (by omega) (by omega) (by omega)

/-- A layout of offsets becomes one of addresses where the base has every alignment. -/
theorem laidOut_shift {base m : Nat} {ps : List Placed} (h : ∀ p ∈ ps, p.align ∣ base) :
    LaidOut base m (ps.map (Placed.shift base)) ↔ LaidOut 0 m ps := by
  constructor
  · rintro ⟨hinside, haligned, hapart⟩
    refine ⟨fun p hp => ?_, fun p hp => ?_, ?_⟩
    · have := hinside _ (List.mem_map_of_mem hp)
      simp only [Placed.shift] at this
      omega
    · exact (Nat.dvd_add_right (h p hp)).mp (haligned _ (List.mem_map_of_mem hp))
    · exact (List.pairwise_map.mp hapart).imp apart_shift.mp
  · rintro ⟨hinside, haligned, hapart⟩
    refine ⟨fun q hq => ?_, fun q hq => ?_, ?_⟩
    · obtain ⟨p, hp, rfl⟩ := List.mem_map.mp hq
      have := hinside p hp
      simp only [Placed.shift]
      omega
    · obtain ⟨p, hp, rfl⟩ := List.mem_map.mp hq
      exact (Nat.dvd_add_right (h p hp)).mpr (haligned p hp)
    · exact List.pairwise_map.mpr (hapart.imp apart_shift.mpr)

/-- The offset of a block that is requested when the top is `top`. -/
def wrapPlace (M top : Nat) (b : Block) : Nat := alignUp b.align top % M

/-- The top after a request. -/
def wrapTop (M top : Nat) (b : Block) : Nat := (wrapPlace M top b + b.len) % M

/-- The blocks at their offsets. -/
def placed (M : Nat) : Nat → List Block → List Placed
  | _, [] => []
  | top, b :: bs => ⟨b, wrapPlace M top b⟩ :: placed M (wrapTop M top b) bs

/-- The top after all requests. -/
def finalTop (M : Nat) : Nat → List Block → Nat
  | top, [] => top
  | top, b :: bs => finalTop M (wrapTop M top b) bs

/-- No request exceeds the capacity. -/
def Fits (M cap : Nat) : Nat → List Block → Prop
  | _, [] => True
  | top, b :: bs => wrapTop M top b ≤ cap ∧ Fits M cap (wrapTop M top b) bs

/-- No sum reaches `M`. -/
def NoWrap (M : Nat) : Nat → List Block → Prop
  | _, [] => True
  | top, b :: bs => alignUp b.align top + b.len < M ∧ NoWrap M (alignUp b.align top + b.len) bs

/-- `NoWrap` computed. -/
def noWrapB (M : Nat) : Nat → List Block → Bool
  | _, [] => true
  | top, b :: bs =>
    decide (alignUp b.align top + b.len < M) && noWrapB M (alignUp b.align top + b.len) bs

theorem noWrapB_iff {M : Nat} : ∀ {top : Nat} {bs : List Block},
    noWrapB M top bs = true ↔ NoWrap M top bs
  | _, [] => by simp [noWrapB, NoWrap]
  | top, b :: bs => by simp [noWrapB, NoWrap, noWrapB_iff]

instance (M top : Nat) (bs : List Block) : Decidable (NoWrap M top bs) :=
  decidable_of_iff _ noWrapB_iff

/-- Every alignment is a positive divisor of `M`. -/
def Aligns (M : Nat) (bs : List Block) : Prop := ∀ b ∈ bs, 0 < b.align ∧ b.align ∣ M

section

variable {M m top : Nat} {b : Block} {bs : List Block}

theorem fits_top (h : 0 < M) : Fits M (M - 1) top bs := by
  induction bs generalizing top with
  | nil => trivial
  | cons b bs ih => exact ⟨Nat.le_sub_one_of_lt (Nat.mod_lt _ h), ih⟩

theorem wrapPlace_of_noWrap (h : alignUp b.align top + b.len < M) :
    wrapPlace M top b = alignUp b.align top := Nat.mod_eq_of_lt (by omega)

theorem wrapTop_of_noWrap (h : alignUp b.align top + b.len < M) :
    wrapTop M top b = alignUp b.align top + b.len := by
  rw [wrapTop, wrapPlace_of_noWrap h, Nat.mod_eq_of_lt h]

/-! ## Without wrapping -/

theorem alignUp_one (n : Nat) : alignUp 1 n = n := by
  simp [alignUp]

theorem placed_append (xs ys : List Block) :
    ∀ top, placed M top (xs ++ ys) = placed M top xs ++ placed M (finalTop M top xs) ys := by
  induction xs with
  | nil => exact fun _ => rfl
  | cons b xs ih =>
    intro top
    simp only [List.cons_append, placed, finalTop, ih]

theorem NoWrap.drop {xs ys : List Block} (h : NoWrap M top (xs ++ ys)) :
    NoWrap M (finalTop M top xs) ys := by
  induction xs generalizing top with
  | nil => exact h
  | cons b xs ih =>
    obtain ⟨hlt, hrest⟩ := h
    rw [finalTop, wrapTop_of_noWrap hlt]
    exact ih hrest

/-- Blocks of bytes are adjacent. -/
theorem NoWrap.adjacent {l n k : Nat} (h : NoWrap M top [⟨l, 1⟩, ⟨n, 1⟩, ⟨k, 1⟩]) :
    (placed M top [⟨l, 1⟩, ⟨n, 1⟩, ⟨k, 1⟩]).map Placed.ofs = [top, top + l, top + l + n] := by
  obtain ⟨h₁, h₂, h₃, -⟩ := h
  simp only [alignUp_one] at h₁ h₂ h₃
  simp only [placed, wrapTop, wrapPlace, alignUp_one, List.map_cons, List.map_nil]
  rw [Nat.mod_eq_of_lt (show top < M by omega), Nat.mod_eq_of_lt h₁,
    Nat.mod_eq_of_lt h₁, Nat.mod_eq_of_lt h₂, Nat.mod_eq_of_lt h₂]

/-- Every block starts at the top or above it and ends at the final top or below it. -/
theorem NoWrap.between (ha : Aligns M bs) (h : NoWrap M top bs) :
    top ≤ finalTop M top bs ∧
      ∀ p ∈ placed M top bs, top ≤ p.ofs ∧ p.ofs + p.len ≤ finalTop M top bs := by
  induction bs generalizing top with
  | nil => exact ⟨Nat.le_refl _, by simp [placed]⟩
  | cons b bs ih =>
    obtain ⟨hlt, hrest⟩ := h
    obtain ⟨hle, -⟩ := @alignUp_bounds b.align top (ha b List.mem_cons_self).1
    obtain ⟨hfinal, hall⟩ := ih (fun c hc => ha c (List.mem_cons_of_mem b hc)) hrest
    simp only [placed, finalTop, wrapTop_of_noWrap hlt, wrapPlace_of_noWrap hlt, List.mem_cons]
    refine ⟨by omega, ?_⟩
    rintro p (rfl | hp)
    · exact ⟨hle, hfinal⟩
    · obtain ⟨hlo, hhi⟩ := hall p hp
      exact ⟨by omega, hhi⟩

theorem NoWrap.fits_iff (ha : Aligns M bs) (h : NoWrap M top bs) (htop : top ≤ m) :
    Fits M m top bs ↔ finalTop M top bs ≤ m := by
  induction bs generalizing top with
  | nil => exact iff_of_true trivial htop
  | cons b bs ih =>
    obtain ⟨hlt, hrest⟩ := h
    have hbs : Aligns M bs := fun c hc => ha c (List.mem_cons_of_mem b hc)
    simp only [Fits, finalTop, wrapTop_of_noWrap hlt]
    constructor
    · rintro ⟨hle, hfits⟩
      exact (ih hbs hrest hle).mp hfits
    · intro hfinal
      have hle := Nat.le_trans (hrest.between hbs).1 hfinal
      exact ⟨hle, (ih hbs hrest hle).mpr hfinal⟩

theorem NoWrap.laidOut (ha : Aligns M bs) (h : NoWrap M top bs) (hm : finalTop M top bs ≤ m) :
    LaidOut 0 m (placed M top bs) := by
  induction bs generalizing top with
  | nil => exact ⟨by simp [placed], by simp [placed], List.Pairwise.nil⟩
  | cons b bs ih =>
    obtain ⟨hlt, hrest⟩ := h
    have hbs : Aligns M bs := fun c hc => ha c (List.mem_cons_of_mem b hc)
    have hbetween := hrest.between hbs
    simp only [placed, finalTop, wrapTop_of_noWrap hlt, wrapPlace_of_noWrap hlt] at hm ⊢
    obtain ⟨hinside, haligned, hapart⟩ := ih hbs hrest hm
    refine ⟨?_, ?_, List.pairwise_cons.mpr ⟨fun p hp => ?_, hapart⟩⟩
    · rintro p (_ | ⟨_, hp⟩)
      · exact ⟨Nat.zero_le _, by rw [Nat.zero_add]; exact Nat.le_trans hbetween.1 hm⟩
      · exact hinside p hp
    · rintro p (_ | ⟨_, hp⟩)
      · exact dvd_alignUp _ _
      · exact haligned p hp
    · exact Apart.of_le (hbetween.2 p hp).1

/-! ## With wrapping -/

/-- From a top of zero on, either a block is placed at offset zero or nothing is allocated. -/
theorem placed_zero (ha : Aligns M bs) :
    (∃ p ∈ placed M 0 bs, p.ofs = 0 ∧ 0 < p.len) ∨ finalTop M 0 bs = 0 := by
  induction bs with
  | nil => exact Or.inr rfl
  | cons b bs ih =>
    have hplace : wrapPlace M 0 b = 0 := by
      rw [wrapPlace, alignUp_zero (ha b List.mem_cons_self).1, Nat.zero_mod]
    rcases Nat.eq_zero_or_pos b.len with hlen | hlen
    · have htop : wrapTop M 0 b = 0 := by rw [wrapTop, hplace, hlen, Nat.zero_mod]
      rcases ih fun c hc => ha c (List.mem_cons_of_mem b hc) with ⟨p, hp, hzero⟩ | hfinal
      · exact Or.inl ⟨p, by rw [placed, htop]; exact List.mem_cons_of_mem _ hp, hzero⟩
      · exact Or.inr (by rw [finalTop, htop, hfinal])
    · exact Or.inl ⟨_, List.mem_cons_self, hplace, hlen⟩

/-- A top that wraps leaves a block outside of the region, places a block at offset zero, or ends
at zero. -/
theorem noWrap_of_sound (ha : Aligns M bs) (htop : top < M) (hfinal : finalTop M top bs ≠ 0)
    (hinside : ∀ p ∈ placed M top bs, p.ofs + p.len < M)
    (hzero : ∀ p ∈ placed M top bs, p.ofs = 0 → p.len = 0) : NoWrap M top bs := by
  induction bs generalizing top with
  | nil => trivial
  | cons b bs ih =>
    obtain ⟨hpos, hdvd⟩ := ha b List.mem_cons_self
    have hbs : Aligns M bs := fun c hc => ha c (List.mem_cons_of_mem b hc)
    rw [placed] at hinside hzero
    have hin : wrapPlace M top b + b.len < M := hinside _ List.mem_cons_self
    by_cases hround : alignUp b.align top < M
    · rw [wrapPlace, Nat.mod_eq_of_lt hround] at hin
      rw [finalTop, wrapTop_of_noWrap hin] at hfinal
      rw [wrapTop_of_noWrap hin] at hinside hzero
      exact ⟨hin, ih hbs hin hfinal (fun p hp => hinside p (List.mem_cons_of_mem _ hp))
        fun p hp => hzero p (List.mem_cons_of_mem _ hp)⟩
    · -- rounding up wraps: the block is empty, and the top is zero
      exfalso
      have hplace : wrapPlace M top b = 0 := by
        rw [wrapPlace, alignUp_wrap hpos hdvd htop (by omega), Nat.mod_self]
      have hlen : b.len = 0 := hzero _ List.mem_cons_self hplace
      have hwrap : wrapTop M top b = 0 := by rw [wrapTop, hplace, hlen, Nat.zero_mod]
      rw [hwrap] at hzero
      rw [finalTop, hwrap] at hfinal
      rcases placed_zero hbs with ⟨p, hp, hofs, hlt⟩ | h
      · exact Nat.lt_irrefl _ (hzero p (List.mem_cons_of_mem _ hp) hofs ▸ hlt)
      · exact hfinal h

/-- The final top is the size that the blocks need, and they are laid out where they fit, if and
only if the top never wraps. -/
theorem bump_sound_iff (ha : Aligns M (b :: bs)) (hlen : 0 < b.len) (hlt : b.len < M) :
    (∀ m < M, (Fits M m 0 (b :: bs) ↔ finalTop M 0 (b :: bs) ≤ m) ∧
      (Fits M m 0 (b :: bs) → LaidOut 0 m (placed M 0 (b :: bs)))) ↔ NoWrap M 0 (b :: bs) := by
  constructor
  · intro h
    have hzero : alignUp b.align 0 = 0 := alignUp_zero (ha b List.mem_cons_self).1
    have hfirst : alignUp b.align 0 + b.len < M := by rwa [hzero, Nat.zero_add]
    have htop : wrapTop M 0 b = b.len := by rw [wrapTop_of_noWrap hfirst, hzero, Nat.zero_add]
    obtain ⟨hinside, -, hapart⟩ := (h (M - 1) (by omega)).2 (fits_top (by omega))
    rw [placed, List.pairwise_cons] at hapart
    rw [placed] at hinside
    refine ⟨hfirst, noWrap_of_sound (fun c hc => ha c (List.mem_cons_of_mem b hc)) hfirst ?_ ?_ ?_⟩
    · intro hfinal
      have hneed := (h 0 (by omega)).1.mpr (by
        rw [finalTop, wrapTop_of_noWrap hfirst]
        exact Nat.le_of_eq hfinal)
      have := hneed.1
      omega
    · intro p hp
      rw [← wrapTop_of_noWrap hfirst] at hp
      have := hinside p (List.mem_cons_of_mem _ hp)
      omega
    · intro p hp hofs
      rw [← wrapTop_of_noWrap hfirst] at hp
      by_contra hne
      have hplace : wrapPlace M 0 b = 0 := by rw [wrapPlace_of_noWrap hfirst, hzero]
      refine hapart.1 p hp 0 (Nat.le_of_eq hplace) ?_ ⟨Nat.le_of_eq hofs, by omega⟩
      show 0 < wrapPlace M 0 b + b.len
      omega
  · intro h m hm
    have hfits := h.fits_iff ha (Nat.zero_le m)
    exact ⟨hfits, fun hfit => h.laidOut ha (hfits.mp hfit)⟩

end

end Lib
