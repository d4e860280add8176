import Mathlib.Tactic.Common

/-!
# Paced attempts

A timer and a counter: an attempt is made when the timer has run out and the way is free, and
restarts the timer; after `limit + 1` attempts none is made any more. Step `k` takes the time `dt k`
and finds the way free or not.

* `Paced`: attempts are at least `period` apart, and there are at most `limit + 1`.
* `Pacer.paced`: the attempts of every run are paced, however long the way is blocked.
-/

namespace Lib

/-- The time that the first `n` steps take. -/
def clock (time : Nat → Nat) : Nat → Nat
  | 0 => 0
  | n + 1 => clock time n + time n

/-- The number of hits in the first `n` steps. -/
def hits (hit : Nat → Bool) : Nat → Nat
  | 0 => 0
  | n + 1 => hits hit n + (hit n).toNat

theorem clock_succ (time : Nat → Nat) (n : Nat) : clock time (n + 1) = clock time n + time n := rfl

theorem clock_le_add (time : Nat → Nat) (m n : Nat) : clock time m ≤ clock time (m + n) := by
  induction n with
  | zero => exact Nat.le_refl _
  | succ n ih => exact Nat.le_trans ih (Nat.le_add_right _ _)

structure Paced (period limit : Nat) (time : Nat → Nat) (hit : Nat → Bool) : Prop where
  spaced : ∀ i j, i < j → hit i = true → hit j = true →
    clock time (i + 1) + period ≤ clock time (j + 1)
  bounded : ∀ n, hits hit n ≤ limit + 1

structure Pacer where
  tmr : Nat
  cnt : Nat

namespace Pacer

variable {period limit : Nat} {dt : Nat → Nat} {free : Nat → Bool} {start : Pacer}

def fires (limit : Nat) (p : Pacer) (dt : Nat) (free : Bool) : Bool :=
  decide (p.cnt ≤ limit) && (free && decide (p.tmr - dt = 0))

def step (period limit : Nat) (p : Pacer) (dt : Nat) (free : Bool) : Pacer :=
  if p.fires limit dt free then ⟨period, p.cnt + 1⟩ else ⟨p.tmr - dt, p.cnt⟩

def run (period limit : Nat) (dt : Nat → Nat) (free : Nat → Bool) (start : Pacer) : Nat → Pacer
  | 0 => start
  | k + 1 => (run period limit dt free start k).step period limit (dt k) (free k)

/-- The attempts of a run. -/
def hit (period limit : Nat) (dt : Nat → Nat) (free : Nat → Bool) (start : Pacer) (k : Nat) : Bool :=
  (run period limit dt free start k).fires limit (dt k) (free k)

theorem cnt_step (p : Pacer) (dt : Nat) (free : Bool) :
    (p.step period limit dt free).cnt = p.cnt + (p.fires limit dt free).toNat := by
  unfold step
  cases p.fires limit dt free <;> rfl

theorem fires_spec {p : Pacer} {dt : Nat} {free : Bool} (h : p.fires limit dt free = true) :
    p.cnt ≤ limit ∧ free = true ∧ p.tmr ≤ dt := by
  simp only [fires, Bool.and_eq_true, decide_eq_true_eq] at h
  exact ⟨h.1, h.2.1, by omega⟩

theorem run_cnt (k : Nat) :
    (run period limit dt free start k).cnt = start.cnt + hits (hit period limit dt free start) k := by
  induction k with
  | zero => rfl
  | succ k ih =>
    rw [run, cnt_step, ih, hits, Nat.add_assoc]
    rfl

theorem run_cnt_le (h : start.cnt ≤ limit + 1) (k : Nat) :
    (run period limit dt free start k).cnt ≤ limit + 1 := by
  induction k with
  | zero => exact h
  | succ k ih =>
    rw [run, cnt_step]
    cases hf : (run period limit dt free start k).fires limit (dt k) (free k) with
    | true =>
      have := (fires_spec hf).1
      simp only [Bool.toNat_true]
      omega
    | false => simpa using ih

/-- From an attempt on, the timer and the time since then make up a period. -/
theorem run_tmr {i : Nat} (hi : hit period limit dt free start i = true) (n : Nat) :
    clock dt (i + 1) + period ≤
      (run period limit dt free start (i + 1 + n)).tmr + clock dt (i + 1 + n) := by
  induction n with
  | zero =>
    have htmr : (run period limit dt free start (i + 1)).tmr = period := by
      rw [run, step]
      exact congrArg Pacer.tmr (if_pos hi)
    rw [Nat.add_zero, htmr]
    omega
  | succ n ih =>
    have hmono := clock_le_add dt (i + 1) n
    rw [← Nat.add_assoc, run, clock_succ dt (i + 1 + n), step]
    split
    · dsimp only
      omega
    · dsimp only
      omega

/-- **Paced attempts.** -/
theorem paced (h : start.cnt = 0) :
    Paced period limit dt (hit period limit dt free start) := by
  refine ⟨?_, ?_⟩
  · intro i j hij hi hj
    obtain ⟨n, rfl⟩ := Nat.exists_eq_add_of_le (Nat.succ_le_of_lt hij)
    have hsum := run_tmr hi n
    have hout := (fires_spec hj).2.2
    rw [Nat.succ_eq_add_one] at hout ⊢
    rw [clock_succ dt (i + 1 + n)]
    omega
  · intro n
    have hcnt := @run_cnt period limit dt free start n
    have hle := @run_cnt_le period limit dt free start (by omega) n
    omega

end Pacer

end Lib
