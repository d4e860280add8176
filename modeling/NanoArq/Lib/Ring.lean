import Mathlib.Data.Nat.ModEq
import NanoArq.Lib.Memory

/-!
# Ring buffers

`n` places numbered `0 … n - 1` hold a window of consecutive items: item `k` lies in place
`k % n`. The window moves forward, so that a place is used again `n` items later.

* `ring_inj`, `ring_surj`: `n` consecutive items lie in different places, and in all of them.
* `ringWrite`: a copy that goes on at place `0` when it reaches place `n`, with its effect on the
  places it reaches (`ringWrite_hit`) and on the others (`ringWrite_miss`). Two copies one behind the
  other are one copy (`ringWrite_append`).
-/

namespace Lib

variable {α : Type*}

theorem ring_inj {n b i j : Nat} (hi : i < n) (hj : j < n) (h : (b + i) % n = (b + j) % n) :
    i = j := by
  have hmod : i % n = j % n := Nat.ModEq.add_left_cancel' b h
  rwa [Nat.mod_eq_of_lt hi, Nat.mod_eq_of_lt hj] at hmod

theorem ring_surj {n a : Nat} (ha : a < n) (b : Nat) : ∃ i, i < n ∧ (b + i) % n = a := by
  have hb := Nat.mod_lt b (Nat.zero_lt_of_lt ha)
  refine ⟨(a + (n - b % n)) % n, Nat.mod_lt _ (Nat.zero_lt_of_lt ha), ?_⟩
  rw [Nat.add_mod_mod, ← Nat.mod_add_mod, show b % n + (a + (n - b % n)) = a + n by omega,
    Nat.add_mod_right, Nat.mod_eq_of_lt ha]

/-- Two items in one place are equal or at least `n` apart. -/
theorem ring_inj_abs {n a c : Nat} (hac : a ≤ c) (hlt : c < a + n) (h : a % n = c % n) : a = c := by
  obtain ⟨i, rfl⟩ := Nat.exists_eq_add_of_le hac
  have hn : 0 < n := by omega
  have := @ring_inj n a 0 i hn (by omega) (by simpa using h)
  omega

/-- The place of an item found from a number that was reduced modulo a multiple of `n`. -/
theorem ring_mod {n M : Nat} (hdvd : n ∣ M) (b i : Nat) : (b % M + i) % n = (b + i) % n := by
  rw [Nat.add_mod, Nat.mod_mod_of_dvd _ hdvd, ← Nat.add_mod]

/-- Items of `L` bytes each: where byte `y` of item `b + i` lies. -/
theorem ring_bytes {n L : Nat} (b i : Nat) {y : Nat} (hy : y < L) :
    (b % n * L + (i * L + y)) % (n * L) = (b + i) % n * L + y := by
  have hL : 0 < L := by omega
  rw [← Nat.add_assoc, ← Nat.add_mul, Nat.mul_comm n L, Nat.mod_mul, Nat.mul_comm _ L,
    Nat.mul_add_mod, Nat.mod_eq_of_lt hy, Nat.mul_add_div hL, Nat.div_eq_of_lt hy, Nat.add_zero,
    Nat.mod_add_mod, Nat.mul_comm, Nat.add_comm]

/-- The copy of `data` to address `cur` that wraps at address `n`. -/
def ringWrite (m : Mem α) (n cur : Nat) (data : List α) : Mem α :=
  memcpy (memcpy m cur (data.take (n - cur))) 0 (data.drop (n - cur))

section

variable {m : Mem α} {n cur : Nat} {data : List α}

theorem ringWrite_hit (hcur : cur ≤ n) (hdata : data.length ≤ n) {y : Nat}
    (hy : y < data.length) : ringWrite m n cur data ((cur + y) % n) = data[y] := by
  unfold ringWrite
  by_cases hlt : cur + y < n
  · rw [Nat.mod_eq_of_lt hlt, memcpy_of_ge]
    · rw [memcpy_add _ _ (by rw [List.length_take]; omega), List.getElem_take]
    · rw [List.length_drop]
      omega
  · have hplace : (cur + y) % n = 0 + (y - (n - cur)) := by
      rw [Nat.mod_eq_sub_mod (by omega), Nat.mod_eq_of_lt (by omega)]
      omega
    rw [hplace, memcpy_add _ _ (by rw [List.length_drop]; omega), List.getElem_drop]
    congr 1
    omega

theorem ringWrite_miss (hcur : cur ≤ n) {a : Nat} (ha : a < n)
    (hmiss : ∀ y, y < data.length → (cur + y) % n ≠ a) : ringWrite m n cur data a = m a := by
  unfold ringWrite
  by_cases hge : cur ≤ a
  · have hbehind : cur + data.length ≤ a := by
      by_contra hlt
      refine hmiss (a - cur) (by omega) ?_
      rw [Nat.mod_eq_of_lt (by omega)]
      omega
    rw [memcpy_of_ge, memcpy_of_ge]
    · rw [List.length_take]
      omega
    · rw [List.length_drop]
      omega
  · have hbehind : data.length ≤ n - cur + a := by
      by_contra hlt
      refine hmiss (n - cur + a) (by omega) ?_
      rw [show cur + (n - cur + a) = n + a by omega, Nat.add_mod_left, Nat.mod_eq_of_lt ha]
    rw [memcpy_of_ge, memcpy_of_lt _ _ (by omega)]
    rw [List.length_drop]
    omega

theorem ringWrite_beyond (hcur : cur ≤ n) (hdata : data.length ≤ n) {a : Nat} (ha : n ≤ a) :
    ringWrite m n cur data a = m a := by
  unfold ringWrite
  rw [memcpy_of_ge, memcpy_of_ge]
  · rw [List.length_take]
    omega
  · rw [List.length_drop]
    omega

/-- Two copies, the second from where the first ends, are one. -/
theorem ringWrite_append {cur' : Nat} {xs ys : List α} (hcur : cur ≤ n) (hcur' : cur' ≤ n)
    (hnext : ∀ y, (cur' + y) % n = (cur + xs.length + y) % n) (hlen : (xs ++ ys).length ≤ n) :
    ringWrite (ringWrite m n cur xs) n cur' ys = ringWrite m n cur (xs ++ ys) := by
  have hsum : (xs ++ ys).length = xs.length + ys.length := List.length_append
  funext a
  by_cases ha : a < n
  · by_cases hhit : ∃ y, y < xs.length + ys.length ∧ (cur + y) % n = a
    · obtain ⟨y, hy, rfl⟩ := hhit
      rw [ringWrite_hit hcur hlen (by omega)]
      by_cases hyx : y < xs.length
      · rw [List.getElem_append_left hyx, ringWrite_miss hcur' ha, ringWrite_hit hcur (by omega) hyx]
        intro z hz heq
        rw [hnext, Nat.add_assoc] at heq
        have := ring_inj (by omega) (by omega) heq
        omega
      · obtain ⟨z, rfl⟩ := Nat.exists_eq_add_of_le (Nat.not_lt.mp hyx)
        rw [List.getElem_append_right (by omega), ← Nat.add_assoc, ← hnext,
          ringWrite_hit hcur' (by omega) (by omega)]
        congr 1
        omega
    · have hmiss : ∀ y, y < xs.length + ys.length → (cur + y) % n ≠ a := by
        intro y hy heq
        exact hhit ⟨y, hy, heq⟩
      rw [ringWrite_miss hcur ha (by rwa [hsum]), ringWrite_miss hcur' ha, ringWrite_miss hcur ha]
      · exact fun y hy => hmiss y (by omega)
      · intro y hy
        rw [hnext, Nat.add_assoc]
        exact hmiss _ (by omega)
  · have hge := Nat.not_lt.mp ha
    rw [ringWrite_beyond hcur' (by omega) hge, ringWrite_beyond hcur (by omega) hge,
      ringWrite_beyond hcur hlen hge]

end

end Lib
