import Mathlib.Logic.Function.Iterate

/-!
# Linear feedback shift registers

A register of `w` bits moves right by one bit a step; when the bit that leaves it is `1`, the
polynomial `poly` is added (`bitStep`). Bits are fed in at its low end, one before each step
(`feed`).

* `bitStep_xor`: a step is linear over exclusive or.
* `steps_high`, `steps_split`: bits that do not reach the low end in `n` steps only move, so the
  effect of `n` steps on the other bits can be tabulated.
* `feed_eq_steps`: bits that fit the register can be added at once, before the steps.
* `bitStep_injective`: with the top bit of `poly` set no step loses information.
* `feed_ne`: two streams that differ, and only inside `w` consecutive places, leave different
  registers.
-/

namespace Lib

variable {w : Nat}

/-- One step of the register. -/
def bitStep (poly c : BitVec w) : BitVec w :=
  if c.getLsbD 0 then (c >>> 1) ^^^ poly else c >>> 1

variable {poly : BitVec w}

theorem bitStep_xor (a b : BitVec w) : bitStep poly (a ^^^ b) = bitStep poly a ^^^ bitStep poly b := by
  have hcancel : ∀ x y : BitVec w, x ^^^ y = (x ^^^ poly) ^^^ (y ^^^ poly) := by
    intro x y
    rw [BitVec.xor_assoc, BitVec.xor_comm poly, BitVec.xor_assoc, BitVec.xor_self, BitVec.xor_zero]
  unfold bitStep
  rw [BitVec.getLsbD_xor, BitVec.ushiftRight_xor_distrib]
  cases a.getLsbD 0 <;> cases b.getLsbD 0
  · simp
  · simp [BitVec.xor_assoc]
  · simp [BitVec.xor_assoc, BitVec.xor_comm (b >>> 1)]
  · simpa using hcancel _ _

theorem steps_xor (n : Nat) (a b : BitVec w) :
    (bitStep poly)^[n] (a ^^^ b) = (bitStep poly)^[n] a ^^^ (bitStep poly)^[n] b := by
  induction n generalizing a b with
  | zero => rfl
  | succ n ih =>
    simp only [Function.iterate_succ_apply]
    rw [bitStep_xor, ih]

/-- A step undoes a move to the left that lost no bit. -/
theorem bitStep_shiftLeft {x : BitVec w} (h : x.getLsbD (w - 1) = false) :
    bitStep poly (x <<< 1) = x := by
  unfold bitStep
  rw [if_neg (by simp)]
  apply BitVec.eq_of_getLsbD_eq
  intro i hi
  by_cases hlast : i = w - 1
  · subst hlast
    rw [h, BitVec.getLsbD_ushiftRight, BitVec.getLsbD_of_ge _ _ (by omega)]
  · rw [BitVec.getLsbD_ushiftRight, BitVec.getLsbD_shiftLeft]
    simp only [show 1 + i < w by omega, show ¬ 1 + i < 1 by omega, Nat.add_sub_cancel_left]
    rfl

/-- Bits above the lowest `n` only move through `n` steps. -/
theorem steps_high {x : BitVec w} :
    ∀ {n : Nat}, (∀ i, i < n → x.getLsbD i = false) → (bitStep poly)^[n] x = x >>> n
  | 0, _ => by simp
  | n + 1, h => by
    rw [Function.iterate_succ_apply', steps_high fun i hi => h i (by omega)]
    unfold bitStep
    rw [if_neg (by simp [h n (by omega)]), ← BitVec.shiftRight_add]

/-- `n` steps of a register, from those of its lowest `n` bits. -/
theorem steps_split {n : Nat} {x low : BitVec w}
    (h : ∀ i, low.getLsbD i = (decide (i < n) && x.getLsbD i)) :
    (bitStep poly)^[n] x = (bitStep poly)^[n] low ^^^ (x >>> n) := by
  have hhigh : ∀ i, i < n → (low ^^^ x).getLsbD i = false := by
    intro i hi
    simp [h, hi]
  have hmove : (low ^^^ x) >>> n = x >>> n := by
    apply BitVec.eq_of_getLsbD_eq
    intro i _
    rw [BitVec.getLsbD_ushiftRight, BitVec.getLsbD_ushiftRight, BitVec.getLsbD_xor, h,
      decide_eq_false (by omega), Bool.false_and, Bool.false_xor]
  have hsum : x = low ^^^ (low ^^^ x) := by
    rw [← BitVec.xor_assoc, BitVec.xor_self, BitVec.zero_xor]
  rw [hsum, steps_xor, steps_high hhigh, hmove, ← hsum]

/-! ## Feeding bits -/

/-- The register after the bits of `bits`, the first one first. -/
def feed (poly c : BitVec w) (bits : List Bool) : BitVec w :=
  bits.foldl (fun c b => bitStep poly (c ^^^ BitVec.setWidth w (BitVec.ofBool b))) c

theorem feed_nil (c : BitVec w) : feed poly c [] = c := rfl

theorem feed_cons (c : BitVec w) (b : Bool) (bits : List Bool) :
    feed poly c (b :: bits) =
      feed poly (bitStep poly (c ^^^ BitVec.setWidth w (BitVec.ofBool b))) bits := rfl

theorem feed_append (c : BitVec w) (bits bits' : List Bool) :
    feed poly c (bits ++ bits') = feed poly (feed poly c bits) bits' :=
  List.foldl_append

/-- The bits of a list as they lie in a register, the first one lowest. -/
def packed (w : Nat) (bits : List Bool) : BitVec w :=
  BitVec.setWidth w (BitVec.ofBoolListLE bits)

@[simp] theorem packed_getElem (bits : List Bool) {i : Nat} (hi : i < w) :
    (packed w bits)[i] = bits.getD i false := by
  simp [packed]

theorem packed_cons (b : Bool) (bits : List Bool) :
    packed w (b :: bits) = BitVec.setWidth w (BitVec.ofBool b) ^^^ (packed w bits <<< 1) := by
  ext i hi
  cases i with
  | zero => simp
  | succ i => simp

theorem packed_inj {bits bits' : List Bool} (hlen : bits.length = bits'.length)
    (hw : bits.length ≤ w) (h : packed w bits = packed w bits') : bits = bits' := by
  apply List.ext_getElem hlen
  intro i hi hi'
  have hbit := congrArg (fun x => BitVec.getLsbD x i) h
  simpa [show i < w by omega, hi, hi'] using hbit

theorem feed_eq_steps {bits : List Bool} (hw : bits.length ≤ w) (c : BitVec w) :
    feed poly c bits = (bitStep poly)^[bits.length] (c ^^^ packed w bits) := by
  induction bits generalizing c with
  | nil =>
    have hzero : packed w [] = 0#w := by
      ext i hi
      simp
    rw [feed_nil, hzero, BitVec.xor_zero]
    rfl
  | cons b bits ih =>
    rw [List.length_cons] at hw
    have htop : (packed w bits).getLsbD (w - 1) = false := by
      rw [BitVec.getLsbD_eq_getElem (by omega)]
      simp [List.getElem?_eq_none (show bits.length ≤ w - 1 by omega)]
    rw [feed_cons, ih (by omega), List.length_cons, Function.iterate_succ_apply, packed_cons,
      ← BitVec.xor_assoc, bitStep_xor _ (packed w bits <<< 1), bitStep_shiftLeft htop]

/-! ## Differences stay -/

theorem bitStep_injective (hpoly : poly.getLsbD (w - 1) = true) :
    Function.Injective (bitStep poly) := by
  -- the bit that leaves decides the top bit of the result
  have htop : ∀ c : BitVec w, (bitStep poly c).getLsbD (w - 1) = c.getLsbD 0 := by
    intro c
    have hge : (c >>> 1).getLsbD (w - 1) = false := by
      rw [BitVec.getLsbD_ushiftRight, BitVec.getLsbD_of_ge _ _ (by omega)]
    unfold bitStep
    cases hc : c.getLsbD 0
    · simpa using hge
    · simpa [hpoly] using hge
  intro a b hab
  have hlow : a.getLsbD 0 = b.getLsbD 0 := by rw [← htop, ← htop, hab]
  have hshift : a >>> 1 = b >>> 1 := by
    unfold bitStep at hab
    rw [hlow] at hab
    split at hab
    · exact (BitVec.xor_left_inj _).mp hab
    · exact hab
  apply BitVec.eq_of_getLsbD_eq
  intro i hi
  cases i with
  | zero => exact hlow
  | succ i =>
    have hbit := congrArg (fun x => BitVec.getLsbD x i) hshift
    simpa [Nat.add_comm] using hbit

theorem feed_injective (hpoly : poly.getLsbD (w - 1) = true) (bits : List Bool) :
    Function.Injective fun c => feed poly c bits := by
  induction bits with
  | nil => exact fun _ _ h => h
  | cons b bits ih =>
    intro a c h
    exact (BitVec.xor_left_inj _).mp (bitStep_injective hpoly (ih h))

/-- Streams that differ, and only inside the `w` places from `k` on, leave different registers. -/
theorem feed_ne (hpoly : poly.getLsbD (w - 1) = true) {xs ys : List Bool}
    (hlen : xs.length = ys.length) (hne : xs ≠ ys) {k : Nat}
    (hburst : ∀ i, xs[i]? ≠ ys[i]? → k ≤ i ∧ i < k + w) (c : BitVec w) :
    feed poly c xs ≠ feed poly c ys := by
  have hbefore : xs.take k = ys.take k := by
    apply List.ext_getElem?
    intro i
    by_cases hi : i < k
    · rw [List.getElem?_take_of_lt hi, List.getElem?_take_of_lt hi]
      by_contra hdiff
      have := hburst i hdiff
      omega
    · rw [List.getElem?_take, List.getElem?_take, if_neg hi, if_neg hi]
  have hafter : (xs.drop k).drop w = (ys.drop k).drop w := by
    apply List.ext_getElem?
    intro i
    rw [List.drop_drop, List.drop_drop, List.getElem?_drop, List.getElem?_drop]
    by_contra hdiff
    have := hburst _ hdiff
    omega
  intro heq
  rw [← List.take_append_drop k xs, ← List.take_append_drop k ys, feed_append, feed_append,
    hbefore, ← List.take_append_drop w (xs.drop k), ← List.take_append_drop w (ys.drop k),
    feed_append, feed_append, hafter] at heq
  have hmid := feed_injective hpoly _ heq
  have hsame : ((xs.drop k).take w).length = ((ys.drop k).take w).length := by simp [hlen]
  have hfits : ((xs.drop k).take w).length ≤ w := List.length_take_le _ _
  simp only [feed_eq_steps hfits, feed_eq_steps (hsame ▸ hfits)] at hmid
  rw [hsame] at hmid
  have hwin := (BitVec.xor_right_inj _).mp ((bitStep_injective hpoly).iterate _ hmid)
  have hburst_eq := packed_inj hsame hfits hwin
  refine hne ?_
  rw [← List.take_append_drop k xs, ← List.take_append_drop k ys, hbefore,
    ← List.take_append_drop w (xs.drop k), ← List.take_append_drop w (ys.drop k), hburst_eq, hafter]

end Lib
